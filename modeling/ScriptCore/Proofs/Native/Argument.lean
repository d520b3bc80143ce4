import Mathlib.Algebra.Order.Field.Power
import Mathlib.Data.List.Basic
import Mathlib.Data.Rat.Cast.Order
import Mathlib.Data.Rat.Floor
import ScriptCore.Proofs.Native.Signature

/-!
# What a signature refuses

Arguments are counted, and then each is checked by its parameter.  This module says without the
checks what a parameter refuses and with which error: a value of another type, a number that is not
an exact integer where one is needed, and one below zero where a count is needed.  Integers are told
by the rational number that a binary64 number stands for.

* `Number.integer?_eq_some_iff`: a binary64 number is read as the integer that it stands for;
* `Parameter.read_eq_error_iff`: an argument is refused with the error that is said here;
* `Signature.read_eq_error_iff`: of several arguments that are refused the first one counts, and a
  wrong number of arguments comes before all of them.
-/

namespace ScriptCore

namespace Number

namespace Exact

/-- The rational number that a binary64 number stands for, if it is finite. -/
def value? : Exact → Option ℚ
  | finite negative m e => some ((if negative then -1 else 1) * (m * 2 ^ e))
  | _ => none

/-- A finite number has no size below zero. -/
theorem size_nonneg (m : Nat) (e : Int) : (0 : ℚ) ≤ m * 2 ^ e :=
  mul_nonneg m.cast_nonneg (zpow_nonneg two_pos.le e)

/-- A finite number is integral if its size is a natural number. -/
theorem isIntegral_finite {negative : Bool} {m : Nat} {e : Int} :
    (finite negative m e).isIntegral = true ↔ ∃ size : Nat, (m * 2 ^ e : ℚ) = size := by
  -- With an exponent below zero the significand has to be a multiple of a power of two.
  rw [isIntegral, Bool.or_eq_true, decide_eq_true_eq, beq_iff_eq, Nat.pow_eq]
  rcases le_or_gt 0 e with he | he
  · obtain ⟨k, rfl⟩ := Int.eq_ofNat_of_zero_le he
    refine iff_of_true (.inl he) ⟨m * 2 ^ k, ?_⟩
    push_cast
    rw [zpow_natCast]
  · obtain ⟨k, hk⟩ := Int.eq_ofNat_of_zero_le (Int.neg_nonneg_of_nonpos he.le)
    have hpower : (2 : ℚ) ^ k ≠ 0 := pow_ne_zero k two_ne_zero
    have hsize (size : Nat) : (m * 2 ^ e : ℚ) = size ↔ m = size * 2 ^ k := by
      rw [← neg_neg e, hk, zpow_neg, zpow_natCast, ← div_eq_mul_inv, div_eq_iff hpower]
      norm_cast
    simp only [hsize, hk, Int.toNat_natCast, not_le.2 he, false_or, ← Nat.dvd_iff_mod_eq_zero]
    rw [dvd_iff_exists_eq_mul_left]

/-- The size of a finite number, rounded down: a shift of the significand. -/
theorem floor_size (m : Nat) (e : Int) : ⌊(m * 2 ^ e : ℚ)⌋ =
    ((if 0 ≤ e then m * Nat.pow 2 e.toNat else m / Nat.pow 2 (-e).toNat : Nat) : ℤ) := by
  simp only [Nat.pow_eq]
  split
  · rename_i he
    obtain ⟨k, rfl⟩ := Int.eq_ofNat_of_zero_le he
    have hcast : (m * 2 ^ (k : ℤ) : ℚ) = (m * 2 ^ k : Nat) := by push_cast [zpow_natCast]; rfl
    rw [hcast, Int.floor_natCast]
    rfl
  · rename_i he
    obtain ⟨k, hk⟩ := Int.eq_ofNat_of_zero_le (Int.neg_nonneg_of_nonpos (not_le.1 he).le)
    have hcast : (m * 2 ^ e : ℚ) = (m : ℚ) / (2 ^ k : Nat) := by
      rw [← neg_neg e, hk, zpow_neg, zpow_natCast, div_eq_mul_inv]
      push_cast
      rfl
    rw [hcast, hk, Rat.floor_natCast_div_natCast]
    rfl

/-- Dropping the fraction of an integral number changes nothing. -/
theorem cast_truncated {negative : Bool} {m : Nat} {e n : Int}
    (hintegral : (finite negative m e).isIntegral = true)
    (htruncated : (finite negative m e).truncated? = some n) :
    (finite negative m e).value? = some (n : ℚ) := by
  obtain ⟨size, hsize⟩ := isIntegral_finite.1 hintegral
  have hdropped := floor_size m e
  rw [hsize, Int.floor_natCast] at hdropped
  rw [truncated?, ← hdropped, Option.some.injEq] at htruncated
  rw [value?, hsize, ← htruncated]
  cases negative <;> simp

end Exact

/-- A binary64 number is read as the integer that it stands for. -/
theorem integer?_eq_some_iff {x : Float} {n : Int} :
    integer? x = some n ↔ (Exact.ofFloat x).value? = some (n : ℚ) := by
  rw [integer?, isIntegral]
  cases hx : Exact.ofFloat x with
  | notANumber => simp [Exact.isIntegral, Exact.value?]
  | infinity negative => simp [Exact.isIntegral, Exact.value?]
  | finite negative m e =>
    by_cases hintegral : (Exact.finite negative m e).isIntegral = true
    · rw [if_pos hintegral]
      obtain ⟨k, hk⟩ : ∃ k, (Exact.finite negative m e).truncated? = some k := ⟨_, rfl⟩
      rw [hk, Exact.cast_truncated hintegral hk, Option.some.injEq, Option.some.injEq,
        Int.cast_inj]
    · rw [if_neg hintegral]
      -- A number that stands for an integer has a natural size.
      refine iff_of_false (by simp) fun hvalue => hintegral (Exact.isIntegral_finite.2 ?_)
      rw [Exact.value?, Option.some.injEq] at hvalue
      refine ⟨n.natAbs, ?_⟩
      rw [Nat.cast_natAbs, Int.cast_abs, ← hvalue, abs_mul, abs_of_nonneg (Exact.size_nonneg m e)]
      cases negative <;> simp

/-- A number stands for an integer of a size up to `2 ^ 53`. -/
def IsExactInteger (x : Float) (n : Int) : Prop :=
  (Exact.ofFloat x).value? = some (n : ℚ) ∧ n.natAbs ≤ 2 ^ 53

end Number

open Number

variable {function : String} {index start : Nat} {p : Parameter} {value : Value} {x : Float}
  {n : Int} {error : NativeError}

/-! ## One argument -/

namespace Parameter

/-- `exactInteger?` finds the integers of `IsExactInteger`. -/
theorem exactInteger?_eq_some_iff : exactInteger? x = some n ↔ IsExactInteger x n := by
  rw [exactInteger?, Option.filter_eq_some_iff, integer?_eq_some_iff, decide_eq_true_eq]
  rfl

/-- Where `exactInteger?` finds nothing, the number stands for no such integer. -/
theorem exactInteger?_eq_none_iff : exactInteger? x = none ↔ ∀ n, ¬IsExactInteger x n := by
  simp only [Option.eq_none_iff_forall_ne_some, ne_eq, exactInteger?_eq_some_iff]

/-- A parameter takes a value, which reaches the body as the given data. -/
def Takes : (p : Parameter) → Value → p.Carrier → Prop
  | number, value, x => value = .number x
  | integer, value, n => ∃ x, value = .number x ∧ IsExactInteger x n
  | count, value, n => ∃ x, value = .number x ∧ IsExactInteger x (n : Nat)
  | string, value, s => value = .string s

/-- A parameter refuses a value as the argument of a function at a place, with an error. -/
inductive Refuses (function : String) (index : Nat) : Parameter → Value → NativeError → Prop where
  /-- The value is of another type than the one that is required. -/
  | wrongType {p : Parameter} {value : Value} (htype : value.typeName ≠ p.typeName) :
    Refuses function index p value (.argumentType function index p.typeName value.typeName)
  /-- An integer is required, and the number is none that is exact. -/
  | notInteger {p : Parameter} {x : Float} (hp : p = .integer ∨ p = .count)
    (hx : ∀ n, ¬IsExactInteger x n) :
    Refuses function index p (.number x) (.domain function (.notInteger index x))
  /-- A count is required, and the integer is below zero. -/
  | negative {x : Float} {n : Int} (hx : IsExactInteger x n) (hn : n < 0) :
    Refuses function index .count (.number x) (.domain function (.negative index n))

/-- What a parameter `Takes`, `read` gives to the body. -/
theorem Takes.read_eq {carrier : p.Carrier} (h : p.Takes value carrier) :
    p.read function index value = .ok carrier := by
  cases p with
  | number => rw [show value = .number carrier from h, read]
  | string => rw [show value = .string carrier from h, read]
  | integer =>
    obtain ⟨x, rfl, hx⟩ := h
    rw [read, readInteger, exactInteger?_eq_some_iff.2 hx]
    rfl
  | count =>
    obtain ⟨x, rfl, hx⟩ := h
    have hn : ¬((carrier : Nat) : Int) < 0 := by omega
    rw [read, readCount, readInteger, exactInteger?_eq_some_iff.2 hx]
    simp only [bind, Except.bind, if_neg hn]
    rfl

/-- What a parameter `Refuses`, `read` refuses with the same error. -/
theorem Refuses.read_eq (h : p.Refuses function index value error) :
    p.read function index value = .error error := by
  cases h with
  | wrongType htype =>
    -- Every parameter refuses the values of all types but its own.
    cases p <;> cases value <;> first | rfl | exact absurd rfl htype
  | notInteger hp hx =>
    have hnone := exactInteger?_eq_none_iff.2 hx
    obtain rfl | rfl := hp
    · rw [read, readInteger, hnone]
      rfl
    · rw [read, readCount, readInteger, hnone]
      rfl
  | negative hx hn =>
    rw [read, readCount, readInteger, exactInteger?_eq_some_iff.2 hx]
    simp only [bind, Except.bind, if_pos hn]
    rfl

/-- Only numbers have the type name of numbers. -/
theorem exists_number_of_typeName (h : value.typeName = "number") : ∃ x, value = .number x := by
  cases value with
  | number x => exact ⟨x, rfl⟩
  | _ => simp [Value.typeName] at h

/-- Only texts have the type name of texts. -/
theorem exists_string_of_typeName (h : value.typeName = "string") : ∃ s, value = .string s := by
  cases value with
  | string s => exact ⟨s, rfl⟩
  | _ => simp [Value.typeName] at h

/-- A parameter `Takes` a value or `Refuses` it. -/
theorem takes_or_refuses (function : String) (index : Nat) (p : Parameter) (value : Value) :
    (∃ carrier, p.Takes value carrier) ∨ ∃ error, p.Refuses function index value error := by
  -- The checks come in this order: the type, then whether it is an integer, then the sign.
  by_cases htype : value.typeName = p.typeName
  case neg => exact .inr ⟨_, .wrongType htype⟩
  cases p with
  | number => exact .inl (exists_number_of_typeName htype)
  | string => exact .inl (exists_string_of_typeName htype)
  | integer =>
    obtain ⟨x, rfl⟩ := exists_number_of_typeName htype
    by_cases hx : ∃ n, IsExactInteger x n
    · obtain ⟨n, hn⟩ := hx
      exact .inl ⟨n, x, rfl, hn⟩
    · exact .inr ⟨_, .notInteger (.inl rfl) (not_exists.1 hx)⟩
  | count =>
    obtain ⟨x, rfl⟩ := exists_number_of_typeName htype
    by_cases hx : ∃ n, IsExactInteger x n
    · obtain ⟨n, hn⟩ := hx
      rcases lt_or_ge n 0 with hneg | hpos
      · exact .inr ⟨_, .negative hn hneg⟩
      · obtain ⟨k, rfl⟩ := Int.eq_ofNat_of_zero_le hpos
        exact .inl ⟨k, x, rfl, hn⟩
    · exact .inr ⟨_, .notInteger (.inr rfl) (not_exists.1 hx)⟩

/-- `read` refuses an argument with the error that the parameter `Refuses` it with. -/
theorem read_eq_error_iff :
    p.read function index value = .error error ↔ p.Refuses function index value error := by
  constructor
  · intro hread
    rcases p.takes_or_refuses function index value with ⟨carrier, htakes⟩ | ⟨other, hrefuses⟩
    -- What is taken is not refused as well, since reading has one result.
    · rw [htakes.read_eq] at hread
      cases hread
    · rw [hrefuses.read_eq] at hread
      cases hread
      exact hrefuses
  · exact Refuses.read_eq

/-- `read` gives an argument to the body as what the parameter `Takes` it for. -/
theorem read_eq_ok_iff {carrier : p.Carrier} :
    p.read function index value = .ok carrier ↔ p.Takes value carrier := by
  constructor
  · intro hread
    rcases p.takes_or_refuses function index value with ⟨other, htakes⟩ | ⟨error, hrefuses⟩
    · rw [htakes.read_eq] at hread
      cases hread
      exact htakes
    · rw [hrefuses.read_eq] at hread
      cases hread
  · exact Takes.read_eq

/-- After an argument come the others, if it is not refused. -/
theorem read_bind_eq_error_iff {α β : Type} {rest : Except NativeError α} (f : p.Carrier → α → β) :
    (do
      let first ← p.read function index value
      let others ← rest
      return f first others) = .error error ↔
      p.Refuses function index value error ∨
      (∀ error, ¬p.Refuses function index value error) ∧ rest = .error error := by
  simp only [← read_eq_error_iff]
  cases p.read function index value with
  | error first => simp [bind, Except.bind]
  | ok carrier => cases rest <;> simp [bind, Except.bind, pure, Except.pure]

/-- An argument and the others are read if all of them are taken. -/
theorem read_bind_eq_ok_iff {α β : Type} {rest : Except NativeError α} (f : p.Carrier → α → β)
    {result : β} :
    (do
      let first ← p.read function index value
      let others ← rest
      return f first others) = .ok result ↔
      ∃ first others, p.Takes value first ∧ rest = .ok others ∧ f first others = result := by
  have htakes (first : p.Carrier) : p.Takes value first ↔ p.read function index value = .ok first :=
    read_eq_ok_iff.symm
  simp only [htakes]
  cases p.read function index value with
  | error first => simp [bind, Except.bind]
  | ok carrier => cases rest <;> simp [bind, Except.bind, pure, Except.pure]

end Parameter

/-! ## All arguments -/

namespace Signature

/-- The arguments, each with the parameter that it is for. -/
def pairs : Signature → List Value → List (Parameter × Value)
  | fixed parameters, values => parameters.zip values
  | numbers _, values => values.map (.number, ·)

/-- An argument is refused with an error, and none before it is refused.  The places are counted from
`start` on. -/
def FirstRefusal (function : String) (start : Nat) (pairs : List (Parameter × Value))
    (error : NativeError) : Prop :=
  ∃ (i : Nat) (p : Parameter) (value : Value), pairs[i]? = some (p, value) ∧
    p.Refuses function (start + i) value error ∧
    ∀ j < i, ∀ (p : Parameter) (value : Value), pairs[j]? = some (p, value) →
      ∀ error, ¬p.Refuses function (start + j) value error

variable {pairs : List (Parameter × Value)} {parameters : List Parameter} {values : List Value}
  {signature : Signature}

/-- Without arguments there is no `FirstRefusal`. -/
theorem not_firstRefusal_nil : ¬FirstRefusal function start [] error := by
  rintro ⟨i, p, value, hi, -⟩
  cases hi

/-- The `FirstRefusal` is that of the first argument, or the first one after it. -/
theorem firstRefusal_cons : FirstRefusal function start ((p, value) :: pairs) error ↔
    p.Refuses function start value error ∨
    (∀ error, ¬p.Refuses function start value error) ∧
      FirstRefusal function (start + 1) pairs error := by
  constructor
  · -- The place of the refusal tells which it is; places after the first are counted from the next.
    rintro ⟨i, q, w, hi, hrefuses, hfirst⟩
    cases i with
    | zero =>
      cases hi
      exact .inl hrefuses
    | succ i =>
      refine .inr ⟨hfirst 0 i.succ_pos p value rfl, i, q, w, hi, ?_, fun j hj q w hjq => ?_⟩
      · rw [add_right_comm]
        exact hrefuses
      · rw [add_right_comm]
        exact hfirst (j + 1) (Nat.succ_lt_succ hj) q w hjq
  · rintro (hrefuses | ⟨htaken, i, q, w, hi, hrefuses, hfirst⟩)
    · exact ⟨0, p, value, rfl, hrefuses, fun j hj => absurd hj j.not_lt_zero⟩
    · refine ⟨i + 1, q, w, hi, ?_, fun j hj q w hjq => ?_⟩
      · rw [add_right_comm] at hrefuses
        exact hrefuses
      · cases j with
        | zero =>
          cases hjq
          exact htaken
        | succ j =>
          have hrest := hfirst j (Nat.lt_of_succ_lt_succ hj) q w hjq
          rw [add_right_comm] at hrest
          exact hrest

/-- `readTuple` reads one argument for each parameter, up to the first that is refused. -/
theorem readTuple_eq_error_iff (hlength : values.length = parameters.length) :
    readTuple function start parameters values = .error error ↔
      FirstRefusal function start (parameters.zip values) error := by
  -- Induction on the parameters; there is an argument for each, and the places go up by one.
  induction parameters generalizing start values with
  | nil => exact iff_of_false nofun not_firstRefusal_nil
  | cons p parameters ih =>
    cases values with
    | nil => cases hlength
    | cons value values =>
      rw [List.zip_cons_cons, firstRefusal_cons, ← ih (Nat.succ.inj hlength), readTuple]
      exact Parameter.read_bind_eq_error_iff fun first others => (first, others)

/-- `readNumbers` reads up to the first argument that is refused. -/
theorem readNumbers_eq_error_iff : readNumbers function start values = .error error ↔
    FirstRefusal function start (values.map (.number, ·)) error := by
  induction values generalizing start with
  | nil => exact iff_of_false nofun not_firstRefusal_nil
  | cons value values ih =>
    rw [List.map_cons, firstRefusal_cons, ← ih, readNumbers]
    exact Parameter.read_bind_eq_error_iff List.cons

/-- `read` refuses arguments for their number, or else for the first of them that is refused. -/
theorem read_eq_error_iff : signature.read function values = .error error ↔
    (¬signature.arity.accepts values.length ∧
      error = .argumentCount function signature.arity values.length) ∨
    (signature.arity.accepts values.length ∧
      FirstRefusal function 0 (signature.pairs values) error) := by
  by_cases hcount : signature.arity.accepts values.length
  · -- The number is right, so all depends on the arguments.
    simp only [hcount, not_true_eq_false, false_and, true_and, false_or]
    cases signature with
    | fixed parameters =>
      rw [read, if_pos hcount]
      exact readTuple_eq_error_iff (beq_iff_eq.1 hcount)
    | numbers least =>
      rw [read, if_pos hcount]
      exact readNumbers_eq_error_iff
  · rw [read.eq_def, if_neg hcount]
    simp [hcount, eq_comm]

/-- Parameters take arguments, one each. -/
def TakesEach : (parameters : List Parameter) → List Value → Tuple parameters → Prop
  | [], [], _ => True
  | p :: parameters, value :: values, (carrier, carriers) =>
    p.Takes value carrier ∧ TakesEach parameters values carriers
  | [], _ :: _, _ => False
  | _ :: _, [], _ => False

/-- `TakesEach` is about as many arguments as parameters. -/
theorem TakesEach.length_eq {tuple : Tuple parameters} (h : TakesEach parameters values tuple) :
    values.length = parameters.length := by
  induction parameters generalizing values with
  | nil =>
    cases values with
    | nil => rfl
    | cons => exact h.elim
  | cons p parameters ih =>
    cases values with
    | nil => exact h.elim
    | cons value values => rw [List.length_cons, ih h.2, List.length_cons]

/-- `readTuple` reads one argument for each parameter, if all of them are taken. -/
theorem readTuple_eq_ok_iff {tuple : Tuple parameters}
    (hlength : values.length = parameters.length) :
    readTuple function start parameters values = .ok tuple ↔ TakesEach parameters values tuple := by
  -- Induction on the parameters, with one argument less at each step.
  induction parameters generalizing start values with
  | nil =>
    cases List.length_eq_zero_iff.1 hlength
    exact iff_of_true rfl trivial
  | cons p parameters ih =>
    cases values with
    | nil => cases hlength
    | cons value values =>
      obtain ⟨carrier, carriers⟩ := tuple
      have hothers : readTuple function (start + 1) parameters values = .ok carriers ↔
          TakesEach parameters values carriers := ih (Nat.succ.inj hlength)
      rw [TakesEach, ← hothers, readTuple]
      refine (Parameter.read_bind_eq_ok_iff fun first others => (first, others)).trans ?_
      simp

/-- A `fixed` signature reads what its parameters take. -/
theorem read_fixed_eq_ok_iff {tuple : Tuple parameters} :
    (fixed parameters).read function values = .ok tuple ↔ TakesEach parameters values tuple := by
  rw [read]
  split
  · rename_i hcount
    exact readTuple_eq_ok_iff (beq_iff_eq.1 hcount)
  · rename_i hcount
    exact iff_of_false nofun fun htakes => hcount (beq_iff_eq.2 htakes.length_eq)

/-- Two parameters read what they take. -/
theorem read_two_eq_ok_iff {p q : Parameter} {first : p.Carrier} {second : q.Carrier} :
    (fixed [p, q]).read function values = .ok (first, second, ()) ↔
      ∃ a b, values = [a, b] ∧ p.Takes a first ∧ q.Takes b second := by
  rw [read_fixed_eq_ok_iff]
  match values with
  | [] => simp [TakesEach]
  | [a] => simp [TakesEach]
  | [a, b] => simp [TakesEach]
  | a :: b :: c :: _ => simp [TakesEach]

end Signature

end ScriptCore
