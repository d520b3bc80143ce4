import ScriptCore.Proofs.Native.Integer
import ScriptCore.Proofs.Session.Answer

/-!
# Integers in a session

Any 64 bits can come as the argument of a function that needs an integer: fractions down to the least
one, both zeros, numbers just above `2 ^ 53`, infinities and what is no number.  Which of them are
taken is told by what the bits stand for, and no bits but those of the zeros give the same word.

* `ReadsBits`: what becomes of the bits of a number;
* `reads_of_bits`: at any place of any arguments that becomes of them.
-/

namespace ScriptCore

open Number

namespace Session

variable {s : Session} {global : ScopeId} {x : Float} {answer : Bool} {v : ℚ}

/-- `isInt` answers what `isIntegral` tells. -/
theorem IsGlobal.answers_isInt (h : s.IsGlobal global) (x : Float) :
    s.Answers global "isInt" [.number x] (.ok (.boolean (isIntegral x))) := by
  have hrow : Builtin.find? "isInt" = some (.of "isInt" Builtin.integrality) := rfl
  exact h.answers hrow fun _ => rfl

/-- An answer of `isInt` for a number, in any global scope of any session. -/
structure TellsInteger (x : Float) (answer : Bool) : Prop where
  answers : ∀ (s : Session) (global : ScopeId), s.IsGlobal global →
    s.Answers global "isInt" [.number x] (.ok (.boolean answer))
  iff_integer : answer = true ↔ ∃ n : Int, (Exact.ofFloat x).value? = some (n : ℚ)
  /-- The machine comes to it by the first two of the tests for integers. -/
  tests : answer = (x.isFinite && fraction x == 0.0)

/-- `TellsInteger` is true of what `isIntegral` tells. -/
theorem tellsInteger (x : Float) : TellsInteger x (isIntegral x) where
  answers _ _ h := h.answers_isInt x
  iff_integer := isIntegral_iff
  tests := isIntegral_eq x

/-- `TellsInteger` tells of numbers up to `2 ^ 53` whether they are exact integers. -/
theorem TellsInteger.iff_exact (h : TellsInteger x answer)
    (hv : (Exact.ofFloat x).value? = some v) (hle : |v| ≤ 2 ^ 53) :
    answer = true ↔ ∃ n, IsExactInteger x n := by
  rw [h.iff_integer]
  constructor
  · rintro ⟨n, hn⟩
    rw [hv, Option.some.injEq] at hn
    rw [hn, ← Int.cast_abs, Int.abs_eq_natAbs] at hle
    exact ⟨n, hn ▸ hv, by exact_mod_cast hle⟩
  · rintro ⟨n, hn⟩
    exact ⟨n, hn.1⟩

end Session

namespace Argument

open Session

variable {values : List Value} {index : Nat} {bits : UInt64}

/-- `ReadsBits` is what `integer` and `count` make of the bits of a number that is the argument at a
place. -/
structure ReadsBits (function : String) (values : List Value) (index : Nat) (bits : UInt64) :
    Prop where
  /-- The number stands for what the bits say. -/
  value : Exact.ofFloat (.ofBits bits) = Exact.ofBits bits.toNat
  /-- A word is read if and only if the number is the integer of the word, of a size up to
  `2 ^ 53`. -/
  integer_iff : ∀ i, integer function values index = .ok i ↔ IsExactInteger (.ofBits bits) i.toInt
  /-- Every such integer has a word. -/
  integer_exact : ∀ n, IsExactInteger (.ofBits bits) n →
    ∃ i, integer function values index = .ok i ∧ i.toInt = n
  /-- All other numbers are refused. -/
  integer_inexact : (∀ n, ¬IsExactInteger (.ofBits bits) n) → integer function values index =
    .error (.domain function (.notInteger index (.ofBits bits)))
  count_iff : ∀ u, count function values index = .ok u ↔
    IsExactInteger (.ofBits bits) (u.toNat : Nat)
  count_exact : ∀ n, IsExactInteger (.ofBits bits) n → 0 ≤ n →
    ∃ u, count function values index = .ok u ∧ u.toNat = n
  count_negative : ∀ n, IsExactInteger (.ofBits bits) n → n < 0 → count function values index =
    .error (.domain function (.negative index n))
  count_inexact : (∀ n, ¬IsExactInteger (.ofBits bits) n) → count function values index =
    .error (.domain function (.notInteger index (.ofBits bits)))
  /-- Both zeros are read as zero, and nothing else is. -/
  zero_iff : integer function values index = .ok 0 ↔ bits = 0 ∨ bits = 0x8000000000000000
  /-- Other bits are read as other words. -/
  injective : ∀ function' values' index' bits' i,
    values'[index']? = some (.number (.ofBits bits')) → integer function values index = .ok i →
    integer function' values' index' = .ok i → bits = bits' ∨ i = 0
  /-- Up to `2 ^ 53` the numbers are read for which the answer of `isInt` is yes. -/
  isInt : ∃ answer, TellsInteger (.ofBits bits) answer ∧
    ∀ v, (Exact.ofBits bits.toNat).value? = some v → |v| ≤ 2 ^ 53 →
      (answer = true ↔ ∃ i, integer function values index = .ok i)
  /-- Parameters read the same as the words. -/
  read_integer : Parameter.integer.read function index (.number (.ofBits bits)) =
    (integer function values index).map Int64.toInt
  read_count : Parameter.count.read function index (.number (.ofBits bits)) =
    (count function values index).map UInt64.toNat

/-- `ReadsBits` holds at any place of any arguments: the bits of a number are read as the integer that
they stand for, and refused if that is none up to `2 ^ 53`. -/
theorem reads_of_bits (function : String) (h : values[index]? = some (.number (.ofBits bits))) :
    ReadsBits function values index bits where
  value := ofFloat_ofBits bits
  integer_iff _ := integer_eq_ok_iff h
  integer_exact _ := exists_integer function h
  integer_inexact := integer_of_inexact h
  count_iff _ := count_eq_ok_iff h
  count_exact n hn hnonneg := by
    obtain ⟨k, rfl⟩ := Int.eq_ofNat_of_zero_le hnonneg
    obtain ⟨u, hu, hk⟩ := exists_count function h hn
    exact ⟨u, hu, congrArg _ hk⟩
  count_negative _ := count_of_negative h
  count_inexact := count_of_inexact h
  zero_iff := by
    rw [integer_eq_ok_iff h, ← value?_ofBits_eq_zero_iff, IsExactInteger, Int64.toInt_zero,
      Int.cast_zero]
    exact and_iff_left (by decide)
  injective function' values' index' bits' i h' hi hi' := by
    -- Both numbers stand for the integer of the word.
    have hvalue := ((integer_eq_ok_iff h).1 hi).1
    have hvalue' := ((integer_eq_ok_iff h').1 hi').1
    obtain heq | hzero := ofBits_eq_or_eq_zero hvalue hvalue'
    · exact .inl heq
    · rw [Int.cast_eq_zero, ← Int64.toInt_zero, Int64.toInt_inj] at hzero
      exact .inr hzero
  isInt := by
    have htells := tellsInteger (.ofBits bits)
    refine ⟨_, htells, fun v hv hle => ?_⟩
    rw [← ofFloat_ofBits] at hv
    rw [htells.iff_exact hv hle]
    constructor
    · rintro ⟨n, hn⟩
      exact ⟨_, integer_of_exact h hn⟩
    · rintro ⟨i, hi⟩
      exact ⟨_, (integer_eq_ok_iff h).1 hi⟩
  read_integer := Argument.read_integer h
  read_count := Argument.read_count h

/-- At the second place the bits of the least number that is taken are read as an integer, and
refused where a count is needed. -/
theorem reads_of_bits_least :
    let values := [.null, .number (.ofBits 0xC340000000000000)]
    values[1]? = some (.number (.ofBits 0xC340000000000000)) ∧
    ReadsBits "gcd" values 1 0xC340000000000000 ∧
    (∃ i, integer "gcd" values 1 = .ok i ∧ i.toInt = -2 ^ 53) ∧
    count "gcd" values 1 = .error (.domain "gcd" (.negative 1 (-2 ^ 53))) := by
  intro values
  have hreads := reads_of_bits "gcd" (show values[1]? = some (.number (.ofBits 0xC340000000000000))
    from rfl)
  have hleast : IsExactInteger (.ofBits 0xC340000000000000) (-2 ^ 53) := by
    have hparts : Exact.ofBits (0xC340000000000000 : UInt64).toNat = .finite true (2 ^ 52) 1 := by
      decide
    refine ⟨?_, by decide⟩
    rw [hreads.value, hparts]
    norm_num [Exact.value?]
  exact ⟨rfl, hreads, hreads.integer_exact _ hleast, hreads.count_negative _ hleast (by decide)⟩

end Argument

end ScriptCore
