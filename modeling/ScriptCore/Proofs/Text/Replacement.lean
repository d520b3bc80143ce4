import ScriptCore.Proofs.Text.Search

/-!
# Replacing a text

A text falls into pieces at the occurrences of another one, from left to right.  Where they are is
settled by these two texts alone: the pieces are put together again with the replacement, and what
is put in is never looked at.

* `replaceFirst_of_cutsAtFirst`, `replaceAll_of_cutsAtFirst`: what is done at the leftmost
  occurrence;
* `exists_pieces`: all occurrences at once.
-/

namespace ScriptCore.Text

variable {s t u before after : List Char}

/-! ## The leftmost occurrence -/

/-- `replaceFirst` puts the replacement between what `CutsAtFirst` cuts. -/
theorem replaceFirst_of_cutsAtFirst (h : CutsAtFirst t s before after) :
    replaceFirst s t u = before ++ u ++ after := by
  rw [replaceFirst, cutAtFirst?_eq_some_iff.2 h]

/-- Where the text does not occur, `replaceFirst` changes nothing. -/
theorem replaceFirst_of_not_isInfix (h : ¬t <:+: s) : replaceFirst s t u = s := by
  rw [replaceFirst, cutAtFirst?_eq_none_iff.2 h]

/-- `replaceAll` puts the replacement where `CutsAtFirst` cuts, and goes on behind it. -/
theorem replaceAll_of_cutsAtFirst (ht : t ≠ []) (h : CutsAtFirst t s before after) :
    replaceAll s t u = before ++ u ++ replaceAll after t u := by
  rw [replaceAll, dif_neg ht, replaceAll, dif_neg ht, replaceEach]
  split
  · rename_i before' after' hcut
    obtain ⟨rfl, rfl⟩ := (cutsAtFirst_of_cutAtFirst? hcut).unique h
    rfl
  · rename_i hcut
    exact absurd h.isInfix (cutAtFirst?_eq_none_iff.1 hcut)

/-- Where the text does not occur, `replaceAll` changes nothing. -/
theorem replaceAll_of_not_isInfix (ht : t ≠ []) (h : ¬t <:+: s) : replaceAll s t u = s := by
  rw [replaceAll, dif_neg ht, replaceEach]
  split
  · rename_i hcut
    exact absurd (cutsAtFirst_of_cutAtFirst? hcut).isInfix h
  · rfl

/-! ## The empty text -/

/-- The empty text occurs in front of everything. -/
theorem cutsAtFirst_nil (s : List Char) : CutsAtFirst [] s [] s :=
  ⟨rfl, fun _ _ _ => Nat.zero_le _⟩

/-- `replaceAll` of the empty text puts the replacement before every character and at the end. -/
theorem replaceAll_nil (s u : List Char) :
    replaceAll s [] u = s.flatMap (fun c => u ++ [c]) ++ u := by
  rw [replaceAll, dif_pos rfl]

/-! ## All occurrences -/

/-- The pieces between the occurrences of a text, which do not have it in them, are put together by
`replaceAll` with the replacement, whatever that is. -/
theorem exists_pieces (ht : t ≠ []) (s : List Char) : ∃ pieces : List (List Char), pieces ≠ [] ∧
    s = t.intercalate pieces ∧ (∀ piece ∈ pieces, ¬t <:+: piece) ∧
    ∀ u, replaceAll s t u = u.intercalate pieces := by
  -- What follows the leftmost occurrence is shorter and falls into the other pieces.
  induction hlength : s.length using Nat.strong_induction_on generalizing s with
  | _ length ih =>
  by_cases h : t <:+: s
  · obtain ⟨before, after, hcut⟩ := exists_cutsAtFirst h
    have hshorter : after.length < s.length :=
      length_lt_of_cutAtFirst? ht (cutAtFirst?_eq_some_iff.2 hcut)
    obtain ⟨pieces, hne, heq, hpieces, hreplaced⟩ := ih _ (hlength ▸ hshorter) after rfl
    obtain ⟨piece, rest, rfl⟩ := List.exists_cons_of_ne_nil hne
    -- What stands before the leftmost occurrence is the first piece.
    refine ⟨before :: piece :: rest, List.cons_ne_nil _ _, ?_, ?_, fun u => ?_⟩
    · rw [List.intercalate_cons_cons, ← heq, hcut.eq]
    · exact List.forall_mem_cons.2 ⟨hcut.not_isInfix_before ht, hpieces⟩
    · rw [List.intercalate_cons_cons, ← hreplaced, replaceAll_of_cutsAtFirst ht hcut]
  -- Without an occurrence the text is the only piece.
  · refine ⟨[s], List.cons_ne_nil _ _, ?_, ?_, fun u => ?_⟩
    · rw [List.intercalate_singleton]
    · exact List.forall_mem_singleton.2 h
    · rw [List.intercalate_singleton, replaceAll_of_not_isInfix ht h]

end ScriptCore.Text
