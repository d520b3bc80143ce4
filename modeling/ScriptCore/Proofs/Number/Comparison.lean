import ScriptCore.Proofs.Number.Canonical

/-!
# Comparing numbers

The machine compares signs, then exponents, then significands.  For canonical numbers that is a
comparison of their bits, read as a whole number with a sign: the level of a number.  Both zeros have
the level zero.

* `lt_iff`, `le_iff`, `beq_iff`: numbers are compared by their levels;
* `level_le_iff_of_value?`: finite numbers are compared by what they stand for;
* `level_neg`: changing the sign turns the levels around.
-/

namespace ScriptCore.Number

open Float.Model (Format UnpackedFloat)
open Float.Model.UnpackedFloat

variable {x y : Float} {s : Sign} {m m' : Nat} {e e' : Int} {v w : ℚ}

/-! ## Levels -/

/-- The size of a number by its bits, with its sign. -/
def level (x : Float) : Int := if isNegative x then -(sizeBits x : Int) else sizeBits x

/-- The size of a finite number by its bits, from its parts. -/
def ordinal (m : Nat) (e : Int) : Int := (e + 1074) * 2 ^ 52 + m

namespace Canonical

/-- The `ordinal` of a number that is not zero is above that of zero. -/
theorem ordinal_pos (h : Canonical m e) (hm : 0 < m) : 0 < ordinal m e := by
  have hleast := h.least_le
  rw [ordinal]
  omega

/-- The `ordinal` of a finite number is below the one of infinity. -/
theorem ordinal_lt (h : Canonical m e) (he : e ≤ 971) : ordinal m e < infinityBits := by
  have hlt := h.significand_lt
  rw [ordinal, infinityBits]
  omega

/-- Of two `ordinal`s the exponents are compared first: the significands count only between numbers
of the same exponent. -/
theorem compare_ordinal (h : Canonical m e) (h' : Canonical m' e') :
    compare (ordinal m e) (ordinal m' e') = (compare e e').then (compare m m') := by
  have ⟨hlt, hleast, hnormal⟩ := h
  have ⟨hlt', hleast', hnormal'⟩ := h'
  unfold ordinal
  cases horder : compare e e' with
  | lt =>
    rw [Int.compare_eq_lt] at horder
    simp only [Ordering.then, Int.compare_eq_lt]
    omega
  | gt =>
    rw [Int.compare_eq_gt] at horder
    simp only [Ordering.then, Int.compare_eq_gt]
    omega
  | eq =>
    obtain rfl := Int.compare_eq_eq.1 horder
    cases hsignificand : compare m m' with
    | lt =>
      rw [Nat.compare_eq_lt] at hsignificand
      simp only [Ordering.then, Int.compare_eq_lt]
      omega
    | gt =>
      rw [Nat.compare_eq_gt] at hsignificand
      simp only [Ordering.then, Int.compare_eq_gt]
      omega
    | eq =>
      rw [Nat.compare_eq_eq] at hsignificand
      simp [Ordering.then, hsignificand]

end Canonical

/-- With both signs changed, integers are in the opposite order. -/
theorem compare_neg (i j : Int) : compare (-i) (-j) = (compare i j).swap := by
  cases horder : compare i j with
  | lt =>
    rw [Int.compare_eq_lt] at horder
    show _ = Ordering.gt
    rw [Int.compare_eq_gt]
    omega
  | gt =>
    rw [Int.compare_eq_gt] at horder
    show _ = Ordering.lt
    rw [Int.compare_eq_lt]
    omega
  | eq =>
    obtain rfl := Int.compare_eq_eq.1 horder
    exact Int.compare_eq_eq.2 rfl

/-- The level of a number, from the parts that the machine computes with. -/
inductive HasLevel : UnpackedFloat → Int → Prop where
  | zero (s : Sign) : HasLevel (.zero s) 0
  | infinity (s : Sign) : HasLevel (.infinity s) (s.apply infinityBits)
  | finite (s : Sign) (m : Nat) (e : Int) (hm : 0 < m) (h : Canonical m e) (he : e ≤ 971) :
    HasLevel (.finite s m e hm) (s.apply (ordinal m e))

/-- A number has its `level`, whatever its parts are. -/
theorem hasLevel_level (hx : x.isNaN = false) : HasLevel x.toModel.unpack (level x) := by
  have hread := Exact.ofFloat_eq x
  cases hu : x.toModel.unpack with
  | notANumber =>
    rw [hu, Exact.ofUnpacked, ← isNaN_iff] at hread
    exact absurd hread (Bool.eq_false_iff.1 hx)
  -- Infinity has the size bits of infinity, a zero none, and the others have theirs from the parts.
  | infinity s =>
    rw [hu, Exact.ofUnpacked, ofFloat_eq_infinity_iff] at hread
    have hlevel : level x = s.apply infinityBits := by
      rw [level, hread.1, hread.2]
      cases s <;> rfl
    exact hlevel ▸ .infinity s
  | zero s =>
    rw [hu, Exact.ofUnpacked] at hread
    have hsize := sizeBits_of_finite hread
    have hlevel : level x = 0 := by
      rw [level]
      split <;> omega
    exact hlevel ▸ .zero s
  | finite s m e hm =>
    rw [hu, Exact.ofUnpacked] at hread
    have hlevel : level x = s.apply (ordinal m e) := by
      rw [level, isNegative_of_finite hread, sizeBits_of_finite hread]
      cases s <;> rfl
    exact hlevel ▸ .finite s m e hm (canonical_of_finite hread) (exponent_le hread)

/-! ## Comparison -/

/-- `UnpackedFloat.compare` compares parts by their levels. -/
theorem HasLevel.compare_eq {a b : UnpackedFloat} {i j : Int} (ha : HasLevel a i)
    (hb : HasLevel b j) : a.compare b = some (compare i j) := by
  have hinfinite : (0 : Int) < infinityBits := by decide
  symm
  -- The cases are the kinds of both numbers; finite ones are between the two infinities.
  cases ha with
  | infinity s =>
    cases hb with
    | infinity s' => cases s <;> cases s' <;> rfl
    | zero s' => cases s <;> rfl
    | finite s' m' e' hm' h' he' =>
      have hpos' := h'.ordinal_pos hm'
      have hlt' := h'.ordinal_lt he'
      cases s <;> cases s' <;>
        simp only [UnpackedFloat.compare, Sign.apply, Option.some.injEq, Int.compare_eq_lt,
          Int.compare_eq_gt] <;>
        omega
  | zero s =>
    cases hb with
    | infinity s' => cases s' <;> rfl
    | zero s' => rfl
    | finite s' m' e' hm' h' he' =>
      have hpos' := h'.ordinal_pos hm'
      cases s' <;>
        simp only [UnpackedFloat.compare, Sign.apply, Option.some.injEq, Int.compare_eq_lt,
          Int.compare_eq_gt] <;>
        omega
  | finite s m e hm h he =>
    have hpos := h.ordinal_pos hm
    have hlt := h.ordinal_lt he
    cases hb with
    | infinity s' =>
      cases s <;> cases s' <;>
        simp only [UnpackedFloat.compare, Sign.apply, Option.some.injEq, Int.compare_eq_lt,
          Int.compare_eq_gt] <;>
        omega
    | zero s' =>
      cases s <;>
        simp only [UnpackedFloat.compare, Sign.apply, Option.some.injEq, Int.compare_eq_lt,
          Int.compare_eq_gt] <;>
        omega
    | finite s' m' e' hm' h' he' =>
      have hpos' := h'.ordinal_pos hm'
      have hsizes := h.compare_ordinal h'
      cases s <;> cases s'
      · -- Below zero the order of the sizes is turned around.
        rw [UnpackedFloat.compare, ← hsizes]
        exact congrArg some (compare_neg _ _)
      · simp only [UnpackedFloat.compare, Sign.apply, Option.some.injEq, Int.compare_eq_lt]
        omega
      · simp only [UnpackedFloat.compare, Sign.apply, Option.some.injEq, Int.compare_eq_gt]
        omega
      · simp only [UnpackedFloat.compare, Sign.apply, hsizes]

/-- The machine compares numbers by their `level`. -/
theorem compare_eq (hx : x.isNaN = false) (hy : y.isNaN = false) :
    x.toModel.unpack.compare y.toModel.unpack = some (compare (level x) (level y)) :=
  (hasLevel_level hx).compare_eq (hasLevel_level hy)

/-- `<` is the order of the levels. -/
theorem lt_iff (hx : x.isNaN = false) (hy : y.isNaN = false) : x < y ↔ level x < level y := by
  show decide (x.toModel < y.toModel) = true ↔ _
  rw [decide_eq_true_iff]
  show (x.toModel.unpack.compare y.toModel.unpack == some .lt) = true ↔ _
  simp [compare_eq hx hy, Int.compare_eq_lt]

/-- `≤` is the order of the levels. -/
theorem le_iff (hx : x.isNaN = false) (hy : y.isNaN = false) : x ≤ y ↔ level x ≤ level y := by
  show decide (x.toModel ≤ y.toModel) = true ↔ _
  rw [decide_eq_true_iff]
  show (x.toModel.unpack.compare y.toModel.unpack).any (·.isLE) = true ↔ _
  simp [compare_eq hx hy, Int.isLE_compare]

/-- `==` is the equality of the levels, so both zeros are equal. -/
theorem beq_iff (hx : x.isNaN = false) (hy : y.isNaN = false) :
    (x == y) = true ↔ level x = level y := by
  show (x.toModel.unpack.compare y.toModel.unpack == some .eq) = true ↔ _
  simp [compare_eq hx hy]

/-- The levels of finite numbers are in the order of what the numbers stand for. -/
theorem level_le_iff_of_value? (hx : (Exact.ofFloat x).value? = some v)
    (hy : (Exact.ofFloat y).value? = some w) : level x ≤ level y ↔ v ≤ w := by
  -- Both numbers stand for what their signs and sizes say.
  obtain ⟨-, rfl⟩ := value?_ofFloat_iff.1 hx
  obtain ⟨-, rfl⟩ := value?_ofFloat_iff.1 hy
  have hpositive := valueOf_nonneg (sizeBits x)
  have hpositive' := valueOf_nonneg (sizeBits y)
  have hzero : valueOf false 0 = 0 := by simp [valueOf, units]
  unfold level
  cases isNegative x <;> cases isNegative y <;>
    simp only [Bool.false_eq_true, if_false, if_true, valueOf_true, neg_le_neg_iff, Nat.cast_le,
      valueOf_le_iff]
  · -- A number above zero is at most one below it if both are zero.
    constructor
    · intro h
      have hx : sizeBits x = 0 := by omega
      have hy : sizeBits y = 0 := by omega
      simp [hx, hy, hzero]
    · intro h
      have hx : sizeBits x ≤ 0 := valueOf_le_iff.1 (by linarith)
      have hy : sizeBits y ≤ 0 := valueOf_le_iff.1 (by linarith)
      omega
  · exact iff_of_true (by omega) (by linarith)

/-! ## Signs -/

/-- The number with the other sign. -/
def Exact.neg : Exact → Exact
  | .notANumber => .notANumber
  | .infinity n => .infinity !n
  | .finite n m e => .finite (!n) m e

/-- Changing the sign changes only the sign of `Exact.ofFloat`. -/
theorem ofFloat_neg (x : Float) : Exact.ofFloat (-x) = (Exact.ofFloat x).neg := by
  have hread : Exact.ofFloat (-x) = Exact.read x.toModel.unpack.neg := Exact.ofFloat_ofModel _
  have hsign (s : Sign) : (-s == .negative) = !(s == .negative) := by cases s <;> rfl
  rw [hread]
  cases hu : x.toModel.unpack with
  | notANumber =>
    rw [Exact.ofFloat_eq, hu, UnpackedFloat.neg, Exact.read_notANumber]
    rfl
  | infinity s =>
    rw [Exact.ofFloat_eq, hu, UnpackedFloat.neg, Exact.read_infinity, hsign]
    rfl
  | zero s =>
    rw [Exact.ofFloat_eq, hu, UnpackedFloat.neg, Exact.read_zero, hsign]
    rfl
  | finite s m e hm =>
    have hfinite : Exact.ofFloat x = .finite (s == .negative) m e := by
      rw [Exact.ofFloat_eq, hu, Exact.ofUnpacked]
    rw [UnpackedFloat.neg, Exact.read_finite hm (canonical_of_finite hfinite),
      if_pos (exponent_le hfinite), hfinite, hsign]
    rfl

/-- `Exact.neg` stands for the opposite number. -/
theorem Exact.value?_neg (r : Exact) : r.neg.value? = r.value?.map (- ·) := by
  cases r with
  | finite n m e => cases n <;> simp [neg, value?]
  | _ => rfl

/-- The number with the other sign stands for the opposite one. -/
theorem value?_neg (h : (Exact.ofFloat x).value? = some v) :
    (Exact.ofFloat (-x)).value? = some (-v) := by
  rw [ofFloat_neg, Exact.value?_neg, h, Option.map_some]

/-- Whether something is a number does not depend on its sign. -/
theorem isNaN_neg (x : Float) : (-x).isNaN = x.isNaN := by
  rw [Bool.eq_iff_iff, isNaN_iff, isNaN_iff, ofFloat_neg]
  cases Exact.ofFloat x <;> simp [Exact.neg]

/-- Changing the sign turns the levels around. -/
theorem level_neg (hx : x.isNaN = false) : level (-x) = -level x := by
  have hneg := ofFloat_neg x
  cases hread : Exact.ofFloat x with
  | notANumber => exact absurd (isNaN_iff.2 hread) (Bool.eq_false_iff.1 hx)
  | infinity n =>
    rw [hread] at hneg
    obtain ⟨hsize, hsign⟩ := ofFloat_eq_infinity_iff.1 hread
    obtain ⟨hsize', hsign'⟩ := ofFloat_eq_infinity_iff.1 hneg
    rw [level, level, hsize, hsize', hsign, hsign']
    cases n <;> simp
  | finite n m e =>
    rw [hread] at hneg
    rw [level, level, sizeBits_of_finite hread, sizeBits_of_finite hneg,
      isNegative_of_finite hread, isNegative_of_finite hneg]
    cases n <;> simp

end ScriptCore.Number
