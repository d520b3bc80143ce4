import ScriptCore.Proofs.Number.Truncation
import ScriptCore.Proofs.Session.Answer
import ScriptCore.Proofs.Text.Reversal

/-!
# Places in a text in a session

`strLen`, `strCharAt` and `strReverse` count characters, from zero on.  A place comes as a number and
loses its fraction; if there is no character at it, the answer is the empty text.

* `Text.character`: the character at a place;
* `Text.character_reversed`: what reversing does to places;
* `Text.Indexing`: the law that ties the three functions together;
* `Session.index_of_global`: the functions of a global scope obey it.
-/

namespace ScriptCore

open Number

namespace Text

variable {text : String} {c : Char} {i : Nat} {x y : Float} {v : ℚ}

/-! ## Characters by their places -/

/-- The character at a place, as a text; empty if there is none. -/
def character (text : String) (i : Nat) : String := ((text.toList[i]?).map Char.toString).getD ""

/-- `character` of a place with a character is that character. -/
theorem character_of_getElem? (h : text.toList[i]? = some c) : character text i = c.toString := by
  rw [character, h, Option.map_some, Option.getD_some]

/-- `character` behind the end is empty. -/
theorem character_of_le (h : text.length ≤ i) : character text i = "" := by
  rw [← String.length_toList] at h
  rw [character, List.getElem?_eq_none h, Option.map_none, Option.getD_none]

/-- `character` has one character exactly at the places of the text. -/
theorem length_character : (character text i).length = if i < text.length then 1 else 0 := by
  split
  · rename_i hlt
    rw [← String.length_toList] at hlt
    rw [character_of_getElem? (List.getElem?_eq_getElem hlt)]
    simp
  · rename_i hge
    rw [character_of_le (Nat.not_lt.1 hge)]
    simp

/-- `character` at all places, one after the other, gives the text. -/
theorem join_characters (text : String) :
    String.join ((List.range text.length).map (character text)) = text := by
  have hmap : (List.range text.length).map (character text) = text.toList.map Char.toString := by
    apply List.ext_getElem
    · rw [List.length_map, List.length_map, List.length_range, String.length_toList]
    · intro i h₁ h₂
      rw [List.getElem_map, List.getElem_range, List.getElem_map]
      exact character_of_getElem? (List.getElem?_eq_getElem _)
  rw [hmap, ← String.toList_inj, String.toList_join]
  simp [List.flatMap_map]

/-- `character` of the text backwards is the one at the place counted from the end. -/
theorem character_reversed (h : i < text.length) :
    character (reversed text) i = character text (text.length - 1 - i) := by
  have hlt : i < text.toList.length := by rwa [String.length_toList]
  rw [character, character, toList_reversed, List.getElem?_reverse hlt, String.length_toList]

/-! ## Places as numbers -/

/-- `Builtin.characterAt` reads a number as the place that is left without its fraction. -/
theorem characterAt_eq (text : String) (x : Float) : Builtin.characterAt text x =
    match (Exact.ofFloat x).value? with
    | some v => if 0 ≤ wholePart v then character text (wholePart v).toNat else ""
    | none => "" := by
  rw [Builtin.characterAt, Exact.truncated?_eq]
  cases (Exact.ofFloat x).value? with
  | none => rfl
  | some v =>
    show (if wholePart v < 0 then "" else character text (wholePart v).natAbs) =
      if 0 ≤ wholePart v then character text (wholePart v).toNat else ""
    -- Below zero there is no place; from zero on the place is the size of the whole part.
    by_cases hplace : 0 ≤ wholePart v
    · have habs : (wholePart v).natAbs = (wholePart v).toNat := by omega
      rw [if_pos hplace, if_neg (not_lt.2 hplace), habs]
    · rw [if_neg hplace, if_pos (not_le.1 hplace)]

/-- `Builtin.characterAt` of a number for a place is the character there. -/
theorem characterAt_of_value? (hv : (Exact.ofFloat x).value? = some v) (hplace : wholePart v = i) :
    Builtin.characterAt text x = character text i := by
  have hpositive : 0 ≤ wholePart v := by omega
  have htoNat : (wholePart v).toNat = i := by omega
  simp only [characterAt_eq, hv, if_pos hpositive, htoNat]

/-- A number stands for a place of a text: without its fraction it is one of the places. -/
def IsPlace (text : String) (x : Float) : Prop :=
  ∃ v, (Exact.ofFloat x).value? = some v ∧ 0 ≤ wholePart v ∧ wholePart v < text.length

/-- `Builtin.characterAt` of a number for a place of the text has one character. -/
theorem length_characterAt (h : IsPlace text x) : (Builtin.characterAt text x).length = 1 := by
  obtain ⟨v, hv, hlow, hhigh⟩ := h
  obtain ⟨i, hi⟩ := Int.eq_ofNat_of_zero_le hlow
  rw [characterAt_of_value? hv hi, length_character, if_pos (by omega)]

/-- `Builtin.characterAt` of all else is empty: no number, below zero, or behind the end. -/
theorem characterAt_of_not_isPlace (h : ¬IsPlace text x) : Builtin.characterAt text x = "" := by
  rw [characterAt_eq]
  cases hv : (Exact.ofFloat x).value? with
  | none => rfl
  | some v =>
    by_cases hlow : 0 ≤ wholePart v
    · have hhigh : ¬wholePart v < text.length := fun hhigh => h ⟨v, hv, hlow, hhigh⟩
      simp only [if_pos hlow]
      exact character_of_le (by omega)
    · simp only [if_neg hlow]

/-! ## The law -/

/-- Three functions agree on the places of characters in texts: the first one gives their number, the
second one reads one of them and the third one reverses them. -/
structure Indexing (size : String → Float) (read : String → Float → String)
    (reverse : String → String) : Prop where
  /-- The number of characters is exact, if it can be. -/
  size_exact : ∀ text, text.length ≤ 2 ^ 53 → IsExactInteger (size text) text.length
  /-- What is read is one character exactly at the places of the text. -/
  length_eq_one_iff : ∀ text x, (read text x).length = 1 ↔ IsPlace text x
  /-- At all other numbers, and at what is no number or infinite, nothing is read. -/
  read_of_not_isPlace : ∀ text x, ¬IsPlace text x → read text x = ""
  /-- The character that is read has as many characters before it as the number says. -/
  read_append : ∀ before c after x v, (Exact.ofFloat x).value? = some v →
    wholePart v = String.length before → read (before ++ Char.toString c ++ after) x = c.toString
  /-- Between minus one and zero the first character is read. -/
  read_fraction : ∀ text x v y, (Exact.ofFloat x).value? = some v → -1 < v → v < 0 →
    IsExactInteger y 0 → read text x = read text y
  /-- A number beyond the words of 64 bits may be taken for the greatest word. -/
  read_word : ∀ text x v, String.length text < 2 ^ 64 → (Exact.ofFloat x).value? = some v →
    0 ≤ wholePart v → read text x = character text x.toUInt64.toNat
  /-- The characters that are read at all places are the text. -/
  join_eq : ∀ text (place : Nat → Float),
    (∀ i < String.length text, (Exact.ofFloat (place i)).value? = some (i : ℚ)) →
    String.join ((List.range text.length).map fun i => read text (place i)) = text
  /-- In a text backwards, places are counted from the end. -/
  read_reverse : ∀ text x y (i : Nat), i < String.length text →
    (Exact.ofFloat x).value? = some (i : ℚ) →
    (Exact.ofFloat y).value? = some ((text.length - 1 - i : ℤ) : ℚ) →
    read (reverse text) x = read text y
  reverse_reverse : ∀ text, reverse (reverse text) = text
  size_reverse : ∀ text, size (reverse text) = size text
  reverse_append : ∀ s t, reverse (s ++ t) = reverse t ++ reverse s

/-- `Indexing` is true of the functions of the catalogue. -/
theorem indexing : Indexing (fun text => ofNat text.length) Builtin.characterAt reversed where
  size_exact text hlength := isExactInteger_ofNat hlength
  length_eq_one_iff text x := by
    refine ⟨fun hone => ?_, length_characterAt⟩
    by_contra hnot
    rw [characterAt_of_not_isPlace hnot] at hone
    simp at hone
  read_of_not_isPlace text x := characterAt_of_not_isPlace
  read_append before c after x v hv hplace := by
    rw [characterAt_of_value? hv hplace]
    apply character_of_getElem?
    simp [← String.length_toList]
  read_fraction text x v y hv hlow hhigh hy := by
    have hzero : wholePart ((0 : ℤ) : ℚ) = (0 : Nat) := wholePart_intCast 0
    rw [characterAt_of_value? hv (wholePart_eq_zero hlow hhigh), characterAt_of_value? hy.1 hzero]
  read_word text x v hlength hv hplace := by
    obtain ⟨i, hi⟩ := Int.eq_ofNat_of_zero_le hplace
    rw [characterAt_of_value? hv hi, toNat_toUInt64_of_value? hv, hi, Int.toNat_natCast]
    rcases Nat.lt_or_ge i (2 ^ 64) with hlt | hge
    · rw [Nat.min_eq_left (by omega)]
    · -- There is no character at the place, nor at the greatest word.
      rw [Nat.min_eq_right (by omega), character_of_le (by omega), character_of_le (by omega)]
  join_eq text place hplace := by
    have hread : ∀ i ∈ List.range text.length,
        Builtin.characterAt text (place i) = character text i := by
      intro i hi
      have hv := hplace i (List.mem_range.1 hi)
      rw [← Int.cast_natCast] at hv
      exact characterAt_of_value? hv (wholePart_intCast i)
    rw [List.map_congr_left hread, join_characters]
  read_reverse text x y i hi hx hy := by
    have hlast : ((text.length : ℤ) - 1 - i) = (text.length - 1 - i : Nat) := by omega
    rw [← Int.cast_natCast] at hx
    rw [characterAt_of_value? hx (wholePart_intCast i), character_reversed hi,
      characterAt_of_value? hy ((wholePart_intCast _).trans hlast)]
  reverse_reverse := reversed_reversed
  size_reverse text := by rw [length_reversed]
  reverse_append := reversed_append

end Text

namespace Session

open Text

variable {s : Session} {global : ScopeId}

/-- `strCharAt` answers what `Builtin.characterAt` reads. -/
theorem IsGlobal.answers_strCharAt (h : s.IsGlobal global) (text : String) (x : Float) :
    s.Answers global "strCharAt" [.string text, .number x]
      (.ok (.string (Builtin.characterAt text x))) := by
  have hrow : Builtin.find? "strCharAt" = some (.of "strCharAt" Builtin.textCharacter) := rfl
  exact h.answers hrow fun _ => rfl

/-- `index_of_global`: in a global scope `strLen`, `strCharAt` and `strReverse` agree on the places
of characters. -/
theorem index_of_global (h : s.IsGlobal global) : ∃ size read reverse,
    Indexing size read reverse ∧
    (∀ text, s.Answers global "strLen" [.string text] (.ok (.number (size text)))) ∧
    (∀ text x, s.Answers global "strCharAt" [.string text, .number x]
      (.ok (.string (read text x)))) ∧
    ∀ text, s.Answers global "strReverse" [.string text] (.ok (.string (reverse text))) :=
  ⟨_, _, _, indexing, h.answers_strLen, h.answers_strCharAt, h.answers_textMap rfl⟩

/-- The character at a place with a fraction, and none at what is no number. -/
theorem index_of_global_fraction :
    let s := (start 0 0).run [.newGlobal .silent]
    s.IsGlobal ⟨0⟩ ∧
    s.Answers ⟨0⟩ "strCharAt" [.string "añb", .number 1.9] (.ok (.string "ñ")) ∧
    s.Answers ⟨0⟩ "strCharAt" [.string "añb", .number notANumber] (.ok (.string "")) := by
  intro s
  have hglobal : s.IsGlobal ⟨0⟩ := isGlobal_run (sound_start 0 0) .silent (by decide)
  obtain ⟨size, read, reverse, hlaw, -, hread, -⟩ := index_of_global hglobal
  have hparts : Exact.ofFloat 1.9 = .finite false 8556839292003942 (-52) := by decide +kernel
  have hvalue : (Exact.ofFloat 1.9).value? = some (8556839292003942 / 2 ^ 52) := by
    rw [hparts, Exact.value?]
    norm_num
  have hplace : wholePart (8556839292003942 / 2 ^ 52) = "a".length := by
    have hlength : "a".length = 1 := by decide
    rw [hlength, wholePart_of_nonneg (by norm_num), Int.floor_eq_iff]
    norm_num
  have hsecond : read "añb" 1.9 = "ñ" := hlaw.read_append "a" 'ñ' "b" _ _ hvalue hplace
  have hnone : read "añb" notANumber = "" := by
    apply hlaw.read_of_not_isPlace
    rintro ⟨v, hv, -⟩
    have hparts : Exact.ofFloat notANumber = .notANumber := by decide +kernel
    rw [hparts] at hv
    cases hv
  exact ⟨hglobal, hsecond ▸ hread "añb" 1.9, hnone ▸ hread "añb" notANumber⟩

end Session

end ScriptCore
