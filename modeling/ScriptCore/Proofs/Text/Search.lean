import Mathlib.Data.List.Infix
import ScriptCore.Text.Search

/-!
# Occurrences of a text

A text occurs in another one if it stands between two pieces of it.  The search for it goes through
the places from left to right, so what it finds first is where the piece before it is the shortest.

* `includes_iff`: the search finds a text exactly if it occurs;
* `cutAtFirst?_eq_some_iff`, `cutAtFirst?_eq_none_iff`: the text is cut at the leftmost occurrence.
-/

namespace ScriptCore.Text

variable {s t before after before' after' : List Char}

/-- In the empty text `includes` looks at one place. -/
theorem includes_nil (t : List Char) : includes [] t = startsWith [] t := by
  rw [includes, Bool.or_false]

/-- `includes` looks at the first place and then at the others. -/
theorem includes_cons (c : Char) (s t : List Char) :
    includes (c :: s) t = (startsWith (c :: s) t || includes s t) := by
  rw [includes]

/-- `includes` finds a text exactly if it occurs. -/
theorem includes_iff : includes s t = true ↔ t <:+: s := by
  induction s with
  | nil =>
    rw [includes_nil, startsWith, List.isPrefixOf_iff_prefix, List.prefix_nil, List.infix_nil]
  | cons c s ih =>
    rw [includes_cons, Bool.or_eq_true, ih, startsWith, List.isPrefixOf_iff_prefix,
      List.infix_cons_iff]

/-- A text is cut around the leftmost occurrence of another one: no occurrence has a shorter piece
before it. -/
structure CutsAtFirst (t s before after : List Char) : Prop where
  eq : s = before ++ t ++ after
  least : ∀ before' after', s = before' ++ t ++ after' → before.length ≤ before'.length

namespace CutsAtFirst

/-- Where a text is cut it occurs. -/
theorem isInfix (h : CutsAtFirst t s before after) : t <:+: s := ⟨before, after, h.eq.symm⟩

/-- There is one leftmost occurrence, since a piece before it cannot be shorter than itself. -/
theorem unique (h : CutsAtFirst t s before after) (h' : CutsAtFirst t s before' after') :
    before = before' ∧ after = after' := by
  have hlength : before.length = before'.length :=
    Nat.le_antisymm (h.least _ _ h'.eq) (h'.least _ _ h.eq)
  have heq := h.eq.symm.trans h'.eq
  rw [List.append_assoc, List.append_assoc] at heq
  obtain ⟨rfl, hrest⟩ := List.append_inj heq hlength
  exact ⟨rfl, List.append_cancel_left hrest⟩

/-- The text does not occur before the place that `CutsAtFirst` cuts at. -/
theorem not_isInfix_before (h : CutsAtFirst t s before after) (ht : t ≠ []) : ¬t <:+: before := by
  rintro ⟨first, second, rfl⟩
  have hle := h.least first (second ++ t ++ after) (by rw [h.eq]; simp only [List.append_assoc])
  have hpos := List.length_pos_iff.2 ht
  simp only [List.length_append] at hle
  omega

end CutsAtFirst

/-- What `cutAtFirst?` cuts at is the leftmost occurrence. -/
theorem cutsAtFirst_of_cutAtFirst? (h : cutAtFirst? t s = some (before, after)) :
    CutsAtFirst t s before after := by
  refine ⟨eq_of_cutAtFirst? h, ?_⟩
  -- Induction on the text; a place is passed only if the other text does not begin there.
  induction s generalizing before with
  | nil =>
    unfold cutAtFirst? at h
    split at h
    · cases h
      exact fun _ _ _ => Nat.zero_le _
    · cases h
  | cons c s ih =>
    unfold cutAtFirst? at h
    split at h
    · cases h
      exact fun _ _ _ => Nat.zero_le _
    · rename_i hstart
      obtain ⟨⟨rest, _⟩, hcut, heq⟩ := Option.map_eq_some_iff.1 h
      cases heq
      intro before' after' heq
      -- An occurrence at the first place would have stopped the search.
      cases before' with
      | nil => exact absurd (startsWith_iff.2 ⟨after', heq⟩) hstart
      | cons d before' =>
        simp only [List.cons_append, List.cons.injEq] at heq
        exact Nat.succ_le_succ (ih hcut before' after' heq.2)

/-- `cutAtFirst?` fails exactly if the text does not occur. -/
theorem cutAtFirst?_eq_none_iff : cutAtFirst? t s = none ↔ ¬t <:+: s := by
  induction s with
  | nil =>
    rw [cutAtFirst?, startsWith]
    simp
  | cons c s ih =>
    rw [cutAtFirst?, List.infix_cons_iff, ← List.isPrefixOf_iff_prefix, not_or, ← ih, startsWith]
    split <;> simp_all

/-- `cutAtFirst?` cuts at the leftmost occurrence, and at no other. -/
theorem cutAtFirst?_eq_some_iff :
    cutAtFirst? t s = some (before, after) ↔ CutsAtFirst t s before after := by
  refine ⟨cutsAtFirst_of_cutAtFirst?, fun h => ?_⟩
  cases hcut : cutAtFirst? t s with
  | none => exact absurd h.isInfix (cutAtFirst?_eq_none_iff.1 hcut)
  | some cut =>
    obtain ⟨hbefore, hafter⟩ := (cutsAtFirst_of_cutAtFirst? hcut).unique h
    rw [← hbefore, ← hafter]

/-- A text that occurs has a leftmost occurrence. -/
theorem exists_cutsAtFirst (h : t <:+: s) : ∃ before after, CutsAtFirst t s before after := by
  cases hcut : cutAtFirst? t s with
  | none => exact absurd h (cutAtFirst?_eq_none_iff.1 hcut)
  | some cut => exact ⟨cut.1, cut.2, cutsAtFirst_of_cutAtFirst? hcut⟩

end ScriptCore.Text
