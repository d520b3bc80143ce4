import ScriptCore.Proofs.Number.Fraction

/-!
# Integers as words

Functions that need integers compute with words of 64 bits.  An argument is looked up at its place and
has to be a number.  Three tests follow, and a number that passes them is turned into a word with a
sign; where a count is needed, a word that is below zero is refused and the sign given up.  The tests
let through nothing that the words could not hold, so the words are what the parameters of a signature
read.

* `integer_eq_ok_iff`, `count_eq_ok_iff`: a word stands for the same integer as the number;
* `integer_of_inexact`, `count_of_inexact`, `count_of_negative`: the other numbers are refused;
* `read_integer`, `read_count`: parameters read the integers of the words.
-/

namespace ScriptCore.Argument

open Number

variable {function : String} {values : List Value} {index : Nat} {value : Value} {x : Float}
  {n : Int} {i : Int64} {u : UInt64}

/-- The argument at a place as a word with a sign. -/
def integer (function : String) (values : List Value) (index : Nat) : Except NativeError Int64 := do
  let x ← number function values index
  if refusesInteger x then throw (.domain function (.notInteger index x))
  return x.toModel.toInt64

/-- The argument at a place as a word without a sign. -/
def count (function : String) (values : List Value) (index : Nat) : Except NativeError UInt64 := do
  let i ← integer function values index
  if i < 0 then throw (.domain function (.negative index i.toInt))
  return i.toUInt64

/-! ## Words with a sign -/

/-- A number is turned into a word if it passes the tests. -/
theorem integer_eq (h : values[index]? = some (.number x)) : integer function values index =
    if refusesInteger x then .error (.domain function (.notInteger index x))
    else .ok x.toModel.toInt64 := by
  have hnumber : number function values index = .ok x := by rw [number, h]
  rw [integer, hnumber]
  rfl

/-- `integer` casts a number that passes the tests. -/
theorem integer_of_exact (h : values[index]? = some (.number x)) (hx : IsExactInteger x n) :
    integer function values index = .ok x.toModel.toInt64 := by
  rw [integer_eq h, refusesInteger_eq_false_iff.2 ⟨n, hx⟩]
  rfl

/-- `integer` refuses a number that stands for no exact integer. -/
theorem integer_of_inexact (h : values[index]? = some (.number x))
    (hx : ∀ n, ¬IsExactInteger x n) :
    integer function values index = .error (.domain function (.notInteger index x)) := by
  have hrefused : refusesInteger x = true := by
    rw [← Bool.not_eq_false, refusesInteger_eq_false_iff, not_exists]
    exact hx
  rw [integer_eq h, if_pos hrefused]

/-- `integer` makes a word of a number if and only if both stand for the same integer. -/
theorem integer_eq_ok_iff (h : values[index]? = some (.number x)) :
    integer function values index = .ok i ↔ IsExactInteger x i.toInt := by
  by_cases hx : ∃ n, IsExactInteger x n
  · obtain ⟨n, hn⟩ := hx
    rw [integer_of_exact h hn, Except.ok.injEq]
    constructor
    · rintro rfl
      rwa [hn.toInt_toInt64]
    · intro hi
      rw [← Int64.toInt_inj, hi.toInt_toInt64]
  · rw [integer_of_inexact h (not_exists.1 hx)]
    exact iff_of_false (by simp) fun hi => hx ⟨_, hi⟩

/-- Every exact integer has a word that `integer` gives. -/
theorem exists_integer (function : String) (h : values[index]? = some (.number x)) (hx : IsExactInteger x n) :
    ∃ i : Int64, integer function values index = .ok i ∧ i.toInt = n :=
  ⟨_, integer_of_exact h hx, hx.toInt_toInt64⟩

/-! ## Words without a sign -/

/-- A word with a sign that is not below zero keeps its integer when `toUInt64` gives up the sign.
-/
theorem toNat_toUInt64_of_nonneg (hi : 0 ≤ i.toInt) : (i.toUInt64.toNat : Int) = i.toInt := by
  have hle : 0 ≤ i := by rwa [Int64.le_iff_toInt_le, Int64.toInt_zero]
  rw [Int64.toNat_toUInt64_of_le hle, Int64.cast_toNatClampNeg i hle]

/-- `count` looks at the sign after the three tests of `integer`. -/
theorem count_eq (h : integer function values index = .ok i) : count function values index =
    if i < 0 then .error (.domain function (.negative index i.toInt)) else .ok i.toUInt64 := by
  rw [count, h]
  rfl

/-- `count` refuses a number that stands for no exact integer, without looking at the sign. -/
theorem count_of_inexact (h : values[index]? = some (.number x)) (hx : ∀ n, ¬IsExactInteger x n) :
    count function values index = .error (.domain function (.notInteger index x)) := by
  rw [count, integer_of_inexact h hx]
  rfl

/-- `count` refuses an exact integer below zero. -/
theorem count_of_negative (h : values[index]? = some (.number x)) (hx : IsExactInteger x n)
    (hn : n < 0) : count function values index = .error (.domain function (.negative index n)) := by
  obtain ⟨i, hi, rfl⟩ := exists_integer function h hx
  have hneg : i < 0 := by rwa [Int64.lt_iff_toInt_lt, Int64.toInt_zero]
  rw [count_eq hi, if_pos hneg]

/-- A natural number keeps its word when the sign is given up. -/
theorem exists_count {k : Nat} (function : String) (h : values[index]? = some (.number x))
    (hx : IsExactInteger x k) :
    ∃ u : UInt64, count function values index = .ok u ∧ u.toNat = k := by
  obtain ⟨i, hi, hk⟩ := exists_integer function h hx
  have hnonneg : 0 ≤ i.toInt := by omega
  have hnot : ¬i < 0 := by rwa [Int64.lt_iff_toInt_lt, Int64.toInt_zero, not_lt]
  have hu := toNat_toUInt64_of_nonneg hnonneg
  rw [count_eq hi, if_neg hnot]
  exact ⟨_, rfl, by omega⟩

/-- `count` makes a word of a number if and only if both stand for the same integer. -/
theorem count_eq_ok_iff (h : values[index]? = some (.number x)) :
    count function values index = .ok u ↔ IsExactInteger x (u.toNat : Nat) := by
  constructor
  · intro hu
    -- The number has passed the tests, and then its sign was found not to be negative.
    by_cases hx : ∃ n, IsExactInteger x n
    · obtain ⟨n, hn⟩ := hx
      obtain hneg | hnonneg := lt_or_ge n 0
      · cases (count_of_negative h hn hneg).symm.trans hu
      · obtain ⟨k, rfl⟩ := Int.eq_ofNat_of_zero_le hnonneg
        obtain ⟨w, hw, rfl⟩ := exists_count function h hn
        cases hw.symm.trans hu
        exact hn
    · cases (count_of_inexact h (not_exists.1 hx)).symm.trans hu
  · intro hx
    -- The word is the one that the number has, and no other stands for the same integer.
    obtain ⟨w, hw, hk⟩ := exists_count function h hx
    rw [hw, UInt64.toNat_inj.1 hk]

/-! ## Parameters -/

/-- What is no number is refused by `number` for its type. -/
theorem number_of_typeName_ne (h : values[index]? = some value) (hvalue : value.typeName ≠ "number") :
    number function values index =
      .error (.argumentType function index "number" value.typeName) := by
  rw [number, h]
  cases value with
  | number x => exact absurd rfl hvalue
  | _ => rfl

/-- `Parameter.integer` reads the integer of the word, or refuses with the same error. -/
theorem read_integer (h : values[index]? = some value) :
    Parameter.integer.read function index value =
      (integer function values index).map Int64.toInt := by
  by_cases htype : value.typeName = "number"
  case neg =>
    -- Another type is refused before any test.
    rw [(Parameter.Refuses.wrongType htype).read_eq, integer, number_of_typeName_ne h htype]
    rfl
  obtain ⟨x, rfl⟩ := Parameter.exists_number_of_typeName htype
  by_cases hx : ∃ n, IsExactInteger x n
  · obtain ⟨n, hn⟩ := hx
    have htakes : Parameter.integer.Takes (.number x) n := ⟨x, rfl, hn⟩
    rw [htakes.read_eq, integer_of_exact h hn, Except.map, hn.toInt_toInt64]
  · have hrefuses : Parameter.integer.Refuses function index (.number x)
        (.domain function (.notInteger index x)) := .notInteger (.inl rfl) (not_exists.1 hx)
    rw [hrefuses.read_eq, integer_of_inexact h (not_exists.1 hx)]
    rfl

/-- `Parameter.count` reads an integer and looks at its sign. -/
theorem read_count_eq (function : String) (index : Nat) (value : Value) :
    Parameter.count.read function index value =
      (Parameter.integer.read function index value).bind fun n =>
        if n < 0 then .error (.domain function (.negative index n)) else .ok n.natAbs := by
  cases value with
  | number x =>
    rw [Parameter.read, Parameter.read, Parameter.readCount]
    cases Parameter.readInteger index x with
    | error fault => rfl
    | ok n =>
      show (if n < 0 then Except.error (DomainFault.negative index n) else .ok n.natAbs).mapError _ =
        if n < 0 then _ else _
      split <;> rfl
  | _ => rfl

/-- `Parameter.count` reads the number of the word, or refuses with the same error. -/
theorem read_count (h : values[index]? = some value) :
    Parameter.count.read function index value =
      (count function values index).map UInt64.toNat := by
  rw [read_count_eq, read_integer h]
  cases hi : integer function values index with
  | error error =>
    rw [count, hi]
    rfl
  | ok i =>
    -- The sign of the word is that of the integer.
    have hsign : i < 0 ↔ i.toInt < 0 := by rw [Int64.lt_iff_toInt_lt, Int64.toInt_zero]
    simp only [count_eq hi, Except.map, Except.bind, hsign]
    split
    next hneg => rfl
    next hnonneg =>
      have hu := toNat_toUInt64_of_nonneg (not_lt.1 hnonneg)
      simp only [Except.ok.injEq]
      omega

end ScriptCore.Argument
