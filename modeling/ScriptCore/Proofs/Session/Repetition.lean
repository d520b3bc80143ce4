import ScriptCore.Proofs.Native.Repetition
import ScriptCore.Proofs.Number.Integer
import ScriptCore.Proofs.Session.Answer
import ScriptCore.Proofs.Text.Bytes

/-!
# Repeating a text in a session

`strRepeat` takes a text and a number.  Three things can be wrong with the number: it is no exact
integer, it is below zero, or there would be too many bytes.  Otherwise the answer is the text, as
many times over.  The empty text is no exception: it makes no bytes, but the number is still checked.

* `Repeatable`, `Unrepeatable`: which texts can be repeated for which numbers, and why others cannot;
* `RepeatsText`: what `strRepeat` does with a text and a number;
* `repeat_of_global`: the function of a global scope does it, for all texts and all numbers.
-/

namespace ScriptCore.Session

open Number

variable {s : Session} {global : ScopeId} {text : String} {x y z : Float} {n a b : Nat}
  {fault : DomainFault}

/-! ## Which texts can be repeated -/

/-- The number stands for `n`, and the text is empty or `n` copies of it have `2 ^ 30` bytes at
most. -/
structure Repeatable (text : String) (x : Float) (n : Nat) : Prop where
  exact : IsExactInteger x n
  fits : text = "" ∨ text.utf8ByteSize * n ≤ 2 ^ 30

/-- A text cannot be repeated for a number: this is wrong with the number. -/
inductive Unrepeatable (text : String) (x : Float) : DomainFault → Prop where
  | notInteger (hx : ∀ n : Int, ¬IsExactInteger x n) : Unrepeatable text x (.notInteger 1 x)
  | negative {n : Int} (hx : IsExactInteger x n) (hn : n < 0) : Unrepeatable text x (.negative 1 n)
  | tooLarge {n : Nat} (hx : IsExactInteger x n) (hsize : 2 ^ 30 < text.utf8ByteSize * n) :
    Unrepeatable text x .resultTooLarge

/-- The empty text has no bytes, however often it is repeated. -/
theorem Repeatable.size_le (h : Repeatable text x n) : text.utf8ByteSize * n ≤ 2 ^ 30 := by
  rcases h.fits with rfl | hsize
  · simp
  · exact hsize

/-- `Repeatable` and `Unrepeatable` leave no case out. -/
theorem repeatable_or_unrepeatable (text : String) (x : Float) :
    (∃ n, Repeatable text x n) ∨ ∃ fault, Unrepeatable text x fault := by
  by_cases hinteger : ∃ n : Int, IsExactInteger x n
  -- The number is checked before the size is.
  case neg => exact .inr ⟨_, .notInteger (not_exists.1 hinteger)⟩
  obtain ⟨n, hx⟩ := hinteger
  by_cases hn : n < 0
  case pos => exact .inr ⟨_, .negative hx hn⟩
  obtain ⟨k, rfl⟩ := Int.eq_ofNat_of_zero_le (not_lt.1 hn)
  by_cases hsize : text.utf8ByteSize * k ≤ 2 ^ 30
  · exact .inl ⟨k, hx, .inr hsize⟩
  · exact .inr ⟨_, .tooLarge hx (not_le.1 hsize)⟩

/-! ## The call -/

/-- The row of `strRepeat`. -/
theorem find?_strRepeat :
    Builtin.find? "strRepeat" = some (.of "strRepeat" Builtin.textRepeat) :=
  rfl

/-- `strRepeat` answers the copies if the text is `Repeatable`. -/
theorem IsGlobal.answers_strRepeat (h : s.IsGlobal global) (hx : Repeatable text x n) :
    s.Answers global "strRepeat" [.string text, .number x]
      (.ok (.string (String.join (List.replicate n text)))) := by
  have hread : (Signature.fixed [.string, .count]).read "strRepeat" [.string text, .number x] =
      .ok (text, n, ()) :=
    Signature.read_fixed_eq_ok_iff.2 ⟨rfl, ⟨x, rfl, hx.exact⟩, trivial⟩
  exact h.answers find?_strRepeat fun _ =>
    Builtin.reads_textRepeat.eq_ok hread (Builtin.repeated_eq_ok hx.size_le)

/-- What is wrong with the number is what `strRepeat` fails with. -/
theorem Unrepeatable.fails (h : Unrepeatable text x fault) :
    Builtin.Fails (.of "strRepeat" Builtin.textRepeat) [.string text, .number x]
      (.domain "strRepeat" fault) := by
  -- The text is taken, so the number is refused first.
  have hfirst {error : NativeError} (hrefuses : Parameter.count.Refuses "strRepeat" 1 (.number x) error) :
      Signature.FirstRefusal "strRepeat" 0 [(.string, .string text), (.count, .number x)] error := by
    refine Signature.firstRefusal_cons.2 (.inr ⟨fun error hrefuses => ?_, ?_⟩)
    · cases hrefuses with
      | wrongType htype => exact htype rfl
    · exact Signature.firstRefusal_cons.2 (.inl hrefuses)
  cases h with
  | notInteger hx => exact .argument rfl rfl (hfirst (.notInteger (.inr rfl) hx))
  | negative hx hn => exact .argument rfl rfl (hfirst (.negative hx hn))
  | tooLarge hx hsize => exact .domain (.resultTooLarge rfl hx hsize)

/-- `strRepeat` answers the fault if the text is `Unrepeatable`. -/
theorem IsGlobal.answers_unrepeatable (h : s.IsGlobal global) (hx : Unrepeatable text x fault) :
    s.Answers global "strRepeat" [.string text, .number x] (.error (.domain "strRepeat" fault)) :=
  h.answers_error (Builtin.mem_of_find? "strRepeat" find?_strRepeat) hx.fails

/-! ## The law -/

/-- What `strRepeat` does with a text and a number. -/
structure RepeatsText (s : Session) (global : ScopeId) (text : String) (x : Float) : Prop where
  /-- There is a result exactly if the number stands for a count of copies that can be made. -/
  ok_iff : (∃ value, s.Answers global "strRepeat" [.string text, .number x] (.ok value)) ↔
    ∃ n, Repeatable text x n
  /-- The result is the text, `n` times over. -/
  answers : ∀ n, Repeatable text x n →
    s.Answers global "strRepeat" [.string text, .number x]
      (.ok (.string (String.join (List.replicate n text))))
  /-- Its bytes are those of the text times `n`. -/
  size_eq : ∀ n, Repeatable text x n →
    (String.join (List.replicate n text)).utf8ByteSize = text.utf8ByteSize * n ∧
    text.utf8ByteSize * n ≤ 2 ^ 30
  /-- The length that `strLen` answers for it is that of the text times `n`. -/
  length_eq : ∀ n, Repeatable text x n → ∀ y v,
    s.Answers global "strLen" [.string text] (.ok (.number y)) →
    (Exact.ofFloat y).value? = some v → ∃ z,
      s.Answers global "strLen" [.string (String.join (List.replicate n text))] (.ok (.number z)) ∧
      (Exact.ofFloat z).value? = some (v * n)
  length_exact : text.length ≤ 2 ^ 53 → ∃ y,
    s.Answers global "strLen" [.string text] (.ok (.number y)) ∧ IsExactInteger y text.length
  /-- The copies for a sum are those for the summands, one after the other. -/
  answers_add : ∀ a b, Repeatable text x (a + b) → ∀ y z, IsExactInteger y a → IsExactInteger z b →
    ∃ first second,
      s.Answers global "strRepeat" [.string text, .number y] (.ok (.string first)) ∧
      s.Answers global "strRepeat" [.string text, .number z] (.ok (.string second)) ∧
      s.Answers global "strRepeat" [.string text, .number x] (.ok (.string (first ++ second)))
  /-- In all other cases the number is refused, also with the empty text. -/
  answers_error : (∀ n, ¬Repeatable text x n) → ∃ fault, Unrepeatable text x fault ∧
    s.Answers global "strRepeat" [.string text, .number x] (.error (.domain "strRepeat" fault))
  /-- On words of 64 bits the same texts are too large: no product wraps around. -/
  fits_iff : ∀ n : Nat, IsExactInteger x n → text.utf8ByteSize < 2 ^ 64 →
    ((∃ value, s.Answers global "strRepeat" [.string text, .number x] (.ok value)) ↔
      text = "" ∨ Fits text.utf8ByteSize.toUInt64 n.toUInt64)

/-- A number stands for one integer. -/
theorem eq_of_isExactInteger {k l : Int} (hk : IsExactInteger x k) (hl : IsExactInteger x l) :
    k = l := by
  have hvalue := hk.1.symm.trans hl.1
  simpa using hvalue

/-- `Repeatable` and `Unrepeatable` exclude each other. -/
theorem not_unrepeatable (h : Repeatable text x n) : ¬Unrepeatable text x fault := by
  intro hfault
  cases hfault with
  | notInteger hx => exact hx n h.exact
  | negative hx hn =>
    have heq := eq_of_isExactInteger h.exact hx
    omega
  | tooLarge hx hsize =>
    have heq := eq_of_isExactInteger h.exact hx
    have hle := h.size_le
    rw [Int.natCast_inj] at heq
    subst heq
    omega

/-- There is a result exactly for a count of copies that can be made. -/
theorem IsGlobal.strRepeat_ok_iff (h : s.IsGlobal global) (text : String) (x : Float) :
    (∃ value, s.Answers global "strRepeat" [.string text, .number x] (.ok value)) ↔
      ∃ n, Repeatable text x n := by
  constructor
  · rintro ⟨value, hvalue⟩
    rcases repeatable_or_unrepeatable text x with hn | ⟨fault, hfault⟩
    · exact hn
    · cases hvalue.unique (h.answers_unrepeatable hfault)
  · rintro ⟨n, hn⟩
    exact ⟨_, h.answers_strRepeat hn⟩

/-- A part of the copies can be made if all of them can. -/
theorem Repeatable.of_le (h : Repeatable text x n) (hle : a ≤ n) (hy : IsExactInteger y a) :
    Repeatable text y a :=
  ⟨hy, .inr (Nat.le_trans (Nat.mul_le_mul_left _ hle) h.size_le)⟩

/-- The length of the copies is exact, since there are no more characters than bytes. -/
theorem Repeatable.value?_length (h : Repeatable text x n) {v : ℚ}
    (hv : (Exact.ofFloat (ofNat text.length)).value? = some v) :
    (Exact.ofFloat (ofNat (text.length * n))).value? = some (v * n) := by
  -- Of no copies the length is zero. Otherwise one copy is no longer than all of them.
  rcases Nat.eq_zero_or_pos n with rfl | hn
  · have hzero := (isExactInteger_ofNat (Nat.zero_le (2 ^ 53))).1
    simpa using hzero
  · have hchars : text.length ≤ text.utf8ByteSize := by
      rw [Text.utf8ByteSize_eq, ← String.length_toList]
      exact Text.length_le_byteLength _
    have htotal : text.length * n ≤ 2 ^ 30 := (Nat.mul_le_mul_right n hchars).trans h.size_le
    have hone : text.length ≤ text.length * n := Nat.le_mul_of_pos_right _ hn
    have hlength := (isExactInteger_ofNat (n := text.length) (by omega)).1
    have hcopies := (isExactInteger_ofNat (n := text.length * n) (by omega)).1
    rw [hv, Option.some.injEq] at hlength
    rw [hcopies, hlength]
    push_cast
    rfl

/-- In a global scope `strRepeat` repeats all texts for all numbers that stand for a count of copies
within the limit, and refuses all others. -/
theorem repeat_of_global (h : s.IsGlobal global) (text : String) (x : Float) :
    s.RepeatsText global text x := by
  have hok := h.strRepeat_ok_iff text x
  refine ⟨hok, fun n => h.answers_strRepeat, fun n hn => ?_, fun n hn y v hy hv => ?_,
    fun hlength => ?_, fun a b hn y z hy hz => ?_, fun hnone => ?_, fun n hx hsize => ?_⟩
  · exact ⟨utf8ByteSize_join_replicate text n, hn.size_le⟩
  -- There is one answer to the call of `strLen`, so the number is the length of the text.
  · cases hy.unique (h.answers_strLen text)
    refine ⟨_, h.answers_strLen _, ?_⟩
    rw [length_join_replicate]
    exact hn.value?_length hv
  · exact ⟨_, h.answers_strLen text, isExactInteger_ofNat hlength⟩
  -- The summands are no greater than the sum, so the copies for them can be made too.
  · refine ⟨_, _, h.answers_strRepeat (hn.of_le (Nat.le_add_right a b) hy),
      h.answers_strRepeat (hn.of_le (Nat.le_add_left b a) hz), ?_⟩
    rw [← join_replicate_add]
    exact h.answers_strRepeat hn
  · obtain ⟨fault, hfault⟩ := (repeatable_or_unrepeatable text x).resolve_left
      (not_exists.2 hnone)
    exact ⟨fault, hfault, h.answers_unrepeatable hfault⟩
  -- An exact integer is at most `2 ^ 53`, so it fits a word.
  · have hcount : n < 2 ^ 64 := by
      have := hx.2
      omega
    rw [hok, fits_iff, toNat_toUInt64 hsize, toNat_toUInt64 hcount]
    constructor
    · rintro ⟨k, hk⟩
      cases eq_of_isExactInteger hx hk.exact
      exact hk.fits
    · exact fun hfits => ⟨n, hx, hfits⟩

/-- The limit is reached with two bytes, and one copy more is too much. -/
theorem repeat_of_global_limit :
    let s := (start 0 0).run [.newGlobal .silent]
    s.IsGlobal ⟨0⟩ ∧
    s.Answers ⟨0⟩ "strRepeat" [.string "ab", .number (ofNat (2 ^ 29))]
      (.ok (.string (String.join (List.replicate (2 ^ 29) "ab")))) ∧
    s.Answers ⟨0⟩ "strRepeat" [.string "ab", .number (ofNat (2 ^ 29 + 1))]
      (.error (.domain "strRepeat" .resultTooLarge)) := by
  intro s
  have hglobal : s.IsGlobal ⟨0⟩ := isGlobal_run (sound_start 0 0) .silent (by decide)
  have hbytes : "ab".utf8ByteSize = 2 := by decide
  have hmost : IsExactInteger (ofNat (2 ^ 29)) (2 ^ 29 : Nat) := isExactInteger_ofNat (by decide)
  have hmore : IsExactInteger (ofNat (2 ^ 29 + 1)) (2 ^ 29 + 1 : Nat) :=
    isExactInteger_ofNat (by decide)
  have hlarge : Unrepeatable "ab" (ofNat (2 ^ 29 + 1)) .resultTooLarge :=
    .tooLarge hmore (by omega)
  refine ⟨hglobal, (repeat_of_global hglobal "ab" _).answers _ ⟨hmost, .inr (by omega)⟩, ?_⟩
  -- The fault is the one that the size makes, as the number is an integer and not negative.
  obtain ⟨fault, hfault, hanswer⟩ := (repeat_of_global hglobal "ab" _).answers_error
    fun n hn => not_unrepeatable hn hlarge
  cases hfault with
  | notInteger hx => exact absurd hmore (hx _)
  | negative hx hn =>
    have heq := eq_of_isExactInteger hmore hx
    omega
  | tooLarge => exact hanswer

end ScriptCore.Session
