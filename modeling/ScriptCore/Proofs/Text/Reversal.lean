import Mathlib.Data.List.DropRight
import ScriptCore.Proofs.Text.Search
import ScriptCore.Proofs.Text.WhiteSpace

/-!
# Texts backwards

What is done at the end of a text is what is done at the beginning of the text backwards.  So what
is known about searching and trimming at the beginning is known about the end.

* `reversed`: a text backwards;
* `endsWith_reverse`, `includes_reverse`: searching backwards;
* `trimEnd_eq_reverse`: trimming backwards;
* `trimStart_trimEnd`: the two ends can be trimmed in any order;
* `eq_append_trim_append`: a text is what is trimmed of it, with white space around it.
-/

namespace ScriptCore.Text

variable {s t : List Char} {c : Char}

/-! ## Reversing -/

/-- A text backwards. -/
def reversed (text : String) : String := String.ofList text.toList.reverse

/-- The characters of a `reversed` text are those of the text, from the last one on. -/
@[simp] theorem toList_reversed (text : String) : (reversed text).toList = text.toList.reverse :=
  String.toList_ofList

/-- A text that is `reversed` twice is as it was. -/
theorem reversed_reversed (text : String) : reversed (reversed text) = text := by
  simp [reversed]

/-- A `reversed` text has as many characters. -/
theorem length_reversed (text : String) : (reversed text).length = text.length := by
  simp [← String.length_toList]

/-- Two texts in a row are `reversed` one by one, the second one first. -/
theorem reversed_append (s t : String) : reversed (s ++ t) = reversed t ++ reversed s := by
  simp [reversed]

/-! ## Searching -/

/-- `endsWith` says that a text ends with another one: that is what is left after a piece of it. -/
theorem endsWith_iff : endsWith s t = true ↔ t <:+ s := by
  rw [endsWith, Bool.and_eq_true, decide_eq_true_eq, beq_iff_eq]
  constructor
  · rintro ⟨-, hdrop⟩
    exact hdrop ▸ List.drop_suffix _ _
  · intro hsuffix
    exact ⟨hsuffix.length_le, (List.suffix_iff_eq_drop.1 hsuffix).symm⟩

/-- The beginning of a text is the end of the text backwards, so `endsWith` does for `startsWith`.
-/
theorem endsWith_reverse (s t : List Char) : endsWith s.reverse t.reverse = startsWith s t := by
  rw [Bool.eq_iff_iff, endsWith_iff, startsWith, List.isPrefixOf_iff_prefix, List.reverse_suffix]

/-- `includes` finds a text in another one exactly if it does so backwards. -/
theorem includes_reverse (s t : List Char) : includes s.reverse t.reverse = includes s t := by
  rw [Bool.eq_iff_iff, includes_iff, includes_iff, List.reverse_infix]

/-- `includes` finds a text in another one if that starts with it after a piece of it. -/
theorem includes_iff_startsWith :
    includes s t = true ↔ ∃ before after, s = before ++ after ∧ startsWith after t = true := by
  rw [includes_iff]
  constructor
  · rintro ⟨before, after, rfl⟩
    exact ⟨before, t ++ after, List.append_assoc .., startsWith_iff.2 ⟨after, rfl⟩⟩
  · rintro ⟨before, _, rfl, hstarts⟩
    obtain ⟨after, rfl⟩ := startsWith_iff.1 hstarts
    exact ⟨before, after, List.append_assoc ..⟩

/-! ## Trimming -/

/-- `trimEnd` leaves a character out if it is white space and nothing is left after it. -/
theorem trimEnd_cons (c : Char) (s : List Char) : trimEnd (c :: s) =
    if (trimEnd s).isEmpty && isWhiteSpace c then [] else c :: trimEnd s := rfl

/-- `trimEnd` is `trimStart` of the text backwards. -/
theorem trimEnd_eq_reverse (s : List Char) : trimEnd s = (trimStart s.reverse).reverse := by
  -- Induction from the left; a character is left out if it is white space and nothing is left after
  -- it, and that is when going backwards comes as far as it.
  induction s with
  | nil => rfl
  | cons c s ih =>
    have happend : trimStart (s.reverse ++ [c]) = if (trimStart s.reverse).isEmpty then
        trimStart [c] else trimStart s.reverse ++ [c] := List.dropWhile_append
    rw [trimEnd_cons, ih, List.reverse_cons, happend]
    cases trimStart s.reverse with
    | nil => by_cases hc : isWhiteSpace c <;> simp [trimStart, hc]
    | cons d rest => simp

/-- `trimStart` and `trimEnd` may come in any order. -/
theorem trimStart_trimEnd (s : List Char) : trimStart (trimEnd s) = trimEnd (trimStart s) := by
  -- White space in front is left out by `trimStart`, and before that by `trimEnd` only if nothing is
  -- left after it.
  induction s with
  | nil => rfl
  | cons c s ih =>
    by_cases hc : isWhiteSpace c
    · have hstart : trimStart (c :: s) = trimStart s := List.dropWhile_cons_of_pos hc
      rw [hstart, ← ih, trimEnd_cons, hc, Bool.and_true]
      cases trimEnd s with
      | nil => rfl
      | cons d rest => exact List.dropWhile_cons_of_pos hc
    -- Any other character stays, and `trimStart` stops at it.
    · have hstart (r : List Char) : trimStart (c :: r) = c :: r := List.dropWhile_cons_of_neg hc
      have hend : trimEnd (c :: s) = c :: trimEnd s := by simp [trimEnd_cons, hc]
      rw [hend, hstart, hstart, hend]

/-- `trim` may begin at the end. -/
theorem trim_eq (s : List Char) : trim s = trimStart (trimEnd s) := (trimStart_trimEnd s).symm

/-- `trimStart` leaves no white space in front. -/
theorem trimStart_trimStart (s : List Char) : trimStart (trimStart s) = trimStart s :=
  List.dropWhile_idempotent _ s

/-- `trimEnd` leaves no white space at the end. -/
theorem trimEnd_trimEnd (s : List Char) : trimEnd (trimEnd s) = trimEnd s := by
  rw [trimEnd_eq_reverse, trimEnd_eq_reverse s, List.reverse_reverse, trimStart_trimStart]

/-- `trim` leaves nothing to trim. -/
theorem trim_trim (s : List Char) : trim (trim s) = trim s := by
  calc trim (trim s)
      = trimEnd (trimStart (trimStart (trimEnd s))) := by rw [trim_eq s, trim]
    _ = trimEnd (trimStart (trimEnd s)) := by rw [trimStart_trimStart]
    _ = trimEnd (trimEnd (trimStart s)) := by rw [trimStart_trimEnd]
    _ = trim s := trimEnd_trimEnd _

/-- What `trimStart` leaves out is white space. -/
theorem eq_append_trimStart (s : List Char) :
    ∃ white, s = white ++ trimStart s ∧ ∀ c ∈ white, WhiteSpace c :=
  ⟨s.takeWhile isWhiteSpace, List.takeWhile_append_dropWhile.symm,
    fun _ hc => isWhiteSpace_iff.1 (List.mem_takeWhile_imp hc)⟩

/-- What `trimEnd` leaves out is white space. -/
theorem eq_trimEnd_append (s : List Char) :
    ∃ white, s = trimEnd s ++ white ∧ ∀ c ∈ white, WhiteSpace c := by
  obtain ⟨white, heq, hwhite⟩ := eq_append_trimStart s.reverse
  refine ⟨white.reverse, ?_, fun c hc => hwhite c (List.mem_reverse.1 hc)⟩
  rw [trimEnd_eq_reverse, ← List.reverse_append, ← heq, List.reverse_reverse]

/-- A text is what `trim` leaves of it, with white space around it. -/
theorem eq_append_trim_append (s : List Char) : ∃ first last, s = first ++ trim s ++ last ∧
    (∀ c ∈ first, WhiteSpace c) ∧ ∀ c ∈ last, WhiteSpace c := by
  obtain ⟨first, hfirst, hwhite⟩ := eq_append_trimStart s
  obtain ⟨last, hlast, hwhite'⟩ := eq_trimEnd_append (trimStart s)
  refine ⟨first, last, ?_, hwhite, hwhite'⟩
  rw [List.append_assoc, trim, ← hlast, ← hfirst]

/-- What `trimStart` leaves does not begin with white space. -/
theorem not_whiteSpace_of_head?_trimStart (h : (trimStart s).head? = some c) : ¬WhiteSpace c := by
  have hnot := List.head?_dropWhile_not isWhiteSpace s
  rw [← trimStart, h] at hnot
  rw [← isWhiteSpace_iff]
  simpa using hnot

/-- What `trimEnd` leaves does not end with white space. -/
theorem not_whiteSpace_of_getLast?_trimEnd (h : (trimEnd s).getLast? = some c) : ¬WhiteSpace c := by
  rw [trimEnd_eq_reverse, List.getLast?_reverse] at h
  exact not_whiteSpace_of_head?_trimStart h

end ScriptCore.Text
