import ScriptCore.Proofs.Number.Midpoint

/-!
# Fractions

What is left of a number without its whole part is the number less that whole part.  The difference
has the exponent of the number and no more bits, so the machine computes it without an error, and its
comparison with zero tells the integers from the other numbers.

* `exists_natCast_or_div`: a finite number is integral, or some of its bits are behind the point;
* `value?_truncate`, `value?_fraction`: a finite number is divided into its whole part and its
  fraction;
* `isIntegral_eq`: which numbers the machine finds to be finite and without a fraction;
* `refusesInteger_eq_false_iff`: with a bound to the size, which integers it takes.
-/

namespace ScriptCore.Number

open Float.Model (UnpackedFloat)

variable {x y : Float} {a b v : ℚ} {n : ℤ}

/-! ## Finite numbers -/

/-- `isFinite` tells the numbers that stand for a rational one. -/
theorem isFinite_eq_true_iff : x.isFinite = true ↔ IsFinite x := by
  show x.toModel.unpack.isFinite = true ↔ _
  rw [IsFinite, Exact.ofFloat_eq]
  cases x.toModel.unpack <;> simp [Exact.ofUnpacked, Exact.value?, UnpackedFloat.isFinite]

/-- `==` compares finite numbers by what they stand for. -/
theorem beq_iff_of_value? (hx : (Exact.ofFloat x).value? = some a)
    (hy : (Exact.ofFloat y).value? = some b) : (x == y) = true ↔ a = b := by
  rw [beq_iff (IsFinite.isNaN ⟨a, hx⟩) (IsFinite.isNaN ⟨b, hy⟩), le_antisymm_iff, le_antisymm_iff,
    level_le_iff_of_value? hx hy, level_le_iff_of_value? hy hx]

/-- `<` compares finite numbers by what they stand for. -/
theorem lt_iff_of_value? (hx : (Exact.ofFloat x).value? = some a)
    (hy : (Exact.ofFloat y).value? = some b) : x < y ↔ a < b := by
  rw [lt_iff (IsFinite.isNaN ⟨a, hx⟩) (IsFinite.isNaN ⟨b, hy⟩), ← not_le, ← not_le,
    level_le_iff_of_value? hy hx]

/-- `abs` of a finite number stands for its size, which is written down with its significand and
exponent. -/
theorem value?_abs (h : (Exact.ofFloat x).value? = some v) :
    (Exact.ofFloat x.abs).value? = some |v| := by
  have hread : Exact.ofFloat x.abs = Exact.read x.toModel.unpack.abs := Exact.ofFloat_ofModel _
  have hstands := stands_unpack h
  have hunpacked := Exact.ofFloat_eq x
  rw [hread]
  generalize x.toModel.unpack = p at hstands hunpacked
  cases hstands with
  | zero s =>
    rw [UnpackedFloat.abs, Exact.read_zero]
    simp [Exact.value?]
  | finite s m e hm =>
    rw [UnpackedFloat.abs, Exact.read_finite hm (canonical_of_finite hunpacked),
      if_pos (exponent_le hunpacked), abs_mul, abs_of_nonneg (Exact.size_nonneg m e)]
    cases s <;> simp [Exact.value?, factor]

/-! ## Integers -/

/-- `isIntegral` finds the numbers that stand for an integer. -/
theorem isIntegral_iff : isIntegral x = true ↔
    ∃ n : ℤ, (Exact.ofFloat x).value? = some (n : ℚ) := by
  simp only [← integer?_eq_some_iff, integer?]
  split
  next h =>
    apply iff_of_true h
    cases hx : Exact.ofFloat x with
    | finite negative m e => exact ⟨_, rfl⟩
    | _ => simp [isIntegral, hx, Exact.isIntegral] at h
  next h => simp [h]

/-- `ofInt` of an integer of a size up to `2 ^ 53` stands for it. -/
theorem isExactInteger_ofInt (hn : n.natAbs ≤ 2 ^ 53) : IsExactInteger (ofInt n) n := by
  have hsize := (isExactInteger_ofNat hn).1
  refine ⟨?_, hn⟩
  rw [ofInt]
  -- A negative integer is made of its size, and then the sign is changed.
  split
  next hneg =>
    have hvalue : (n : ℚ) = -((n.natAbs : ℤ) : ℚ) := by
      exact_mod_cast (by omega : n = -(n.natAbs : ℤ))
    rw [hvalue]
    exact value?_neg hsize
  next hnonneg =>
    have hvalue : n = (n.natAbs : ℤ) := by omega
    rw [hvalue]
    exact hsize

/-- The size of a finite number is natural, or some of its bits are behind the point. -/
theorem exists_natCast_or_div (h : (Exact.ofFloat x).value? = some v) :
    (∃ k : ℕ, |v| = k) ∨ ∃ m k : ℕ, m < 2 ^ 53 ∧ k ≤ 1074 ∧ |v| = m / (2 ^ k : ℕ) := by
  obtain ⟨m, e, hcanonical, -, hsize⟩ := exists_parts h
  rw [hsize]
  obtain he | he := le_or_gt 0 e
  -- With an exponent that is not below zero no bits are behind the point.
  · obtain ⟨k, rfl⟩ := Int.eq_ofNat_of_zero_le he
    left
    rw [zpow_natCast]
    exact ⟨m * 2 ^ k, by push_cast; rfl⟩
  · obtain ⟨k, hk⟩ := Int.eq_ofNat_of_zero_le (Int.neg_nonneg_of_nonpos he.le)
    obtain rfl : e = -(k : ℤ) := by omega
    have hleast := hcanonical.least_le
    right
    rw [zpow_neg, zpow_natCast, ← div_eq_mul_inv]
    exact ⟨m, k, hcanonical.significand_lt, by omega, by push_cast; rfl⟩

/-- A number that is not an integer has bits behind the point, so few of them are before it. -/
theorem abs_lt_of_ne_intCast (h : (Exact.ofFloat x).value? = some v) (hv : ∀ n : ℤ, v ≠ n) :
    |v| < 2 ^ 53 := by
  cases exists_natCast_or_div h with
  | inl hnatural =>
    obtain ⟨k, hk⟩ := hnatural
    obtain hpos | hneg := abs_choice v
    · exact absurd (hpos.symm.trans hk) (hv k)
    · have hvalue : v = (-k : ℤ) := by
        rw [← neg_neg v, ← hneg, hk, Int.cast_neg, Int.cast_natCast]
      exact absurd hvalue (hv _)
  | inr hparts =>
    obtain ⟨m, k, hlt, -, hsize⟩ := hparts
    have hm : (m : ℚ) < 2 ^ 53 := by exact_mod_cast hlt
    have hpower : (1 : ℚ) ≤ (2 ^ k : ℕ) := Nat.one_le_cast.2 Nat.one_le_two_pow
    calc |v| = m / (2 ^ k : ℕ) := hsize
      _ ≤ m := div_le_self m.cast_nonneg hpower
      _ < 2 ^ 53 := hm

/-! ## Whole parts and fractions -/

/-- `truncate` of a number stands for its whole part. -/
theorem value?_truncate (h : (Exact.ofFloat x).value? = some v) :
    (Exact.ofFloat (truncate x)).value? = some (wholePart v : ℚ) := by
  have htruncated : (Exact.ofFloat x).truncated? = some (wholePart v) := by
    rw [Exact.truncated?_eq, h, Option.map_some]
  rw [truncate, roundBy, htruncated]
  simp only [id]
  split
  next hintegral =>
    obtain ⟨n, hn⟩ := isIntegral_iff.1 hintegral
    rw [h, Option.some.injEq] at hn
    rw [h, hn, wholePart_intCast]
  next hfraction =>
    -- The whole part is small enough to be a number, so that dropping the fraction rounds nothing.
    have hlt := abs_lt_of_ne_intCast h fun n hn => hfraction (isIntegral_iff.2 ⟨n, hn ▸ h⟩)
    have hsmall : (wholePart v).natAbs ≤ 2 ^ 53 := by
      have hle := (abs_wholePart_le v).trans hlt.le
      rw [← Int.cast_abs, Int.abs_eq_natAbs] at hle
      exact_mod_cast hle
    split
    next hzero =>
      have hnone : (Exact.ofFloat (ofNat 0)).value? = some ((0 : ℕ) : ℤ) :=
        (isExactInteger_ofNat (by decide)).1
      rw [hzero.1]
      simpa using value?_neg hnone
    next => exact (isExactInteger_ofInt hsmall).1

/-- What is dropped needs no rounding: of the bits of the number it has those behind the point. -/
theorem onGrid_sub_wholePart (h : (Exact.ofFloat x).value? = some v) :
    OnGrid (v - wholePart v) := by
  rw [OnGrid, abs_sub_wholePart]
  cases exists_natCast_or_div h with
  | inl hnatural =>
    -- A whole number has nothing behind the point.
    obtain ⟨k, hk⟩ := hnatural
    refine ⟨0, 0, by decide, by decide, ?_⟩
    rw [hk, Int.fract_natCast, Nat.cast_zero, zero_mul]
  | inr hparts =>
    obtain ⟨m, k, hlt, hle, hsize⟩ := hparts
    refine ⟨m % 2 ^ k, -k, (Nat.mod_le m _).trans_lt hlt, by omega, ?_⟩
    rw [hsize, Int.fract_div_natCast_eq_div_natCast_mod, zpow_neg, zpow_natCast, ← div_eq_mul_inv,
      Nat.cast_pow, Nat.cast_ofNat]

/-- What is left of a number without its whole part, with its sign. -/
def fraction (x : Float) : Float := x - truncate x

/-- `fraction` of a finite number is computed without an error. -/
theorem value?_fraction (h : (Exact.ofFloat x).value? = some v) :
    (Exact.ofFloat (fraction x)).value? = some (v - wholePart v) := by
  have htwo := abs_lt_limit_of_value? value?_two
  rw [abs_two] at htwo
  apply (rounded_sub h (value?_truncate h)).value?_eq (onGrid_sub_wholePart h)
  calc |v - wholePart v| = Int.fract |v| := abs_sub_wholePart v
    _ < 1 := Int.fract_lt_one _
    _ < limit := one_lt_two.trans htwo

/-! ## Tests -/

/-- The literal `0.0` stands for zero. -/
theorem value?_zero : (Exact.ofFloat 0.0).value? = some 0 := by
  have hparts : Exact.ofFloat 0.0 = .finite false 0 (-1074) := by decide +kernel
  simp [hparts, Exact.value?]

/-- `fraction` of a finite number is zero if the number is an integer. -/
theorem fraction_beq_zero_iff (h : (Exact.ofFloat x).value? = some v) :
    (fraction x == 0.0) = true ↔ ∃ n : ℤ, v = n := by
  rw [beq_iff_of_value? (value?_fraction h) value?_zero, sub_eq_zero]
  constructor
  · exact fun hv => ⟨wholePart v, hv⟩
  · rintro ⟨n, rfl⟩
    rw [wholePart_intCast]

/-- `isIntegral` on the machine: what is neither finite nor a number has a fraction that is no
number, so that it has to be told apart before. -/
theorem isIntegral_eq (x : Float) : isIntegral x = (x.isFinite && fraction x == 0.0) := by
  rw [Bool.eq_iff_iff, isIntegral_iff, Bool.and_eq_true, isFinite_eq_true_iff]
  constructor
  · rintro ⟨n, hn⟩
    exact ⟨⟨n, hn⟩, (fraction_beq_zero_iff hn).2 ⟨n, rfl⟩⟩
  · rintro ⟨⟨v, hv⟩, hfraction⟩
    obtain ⟨n, rfl⟩ := (fraction_beq_zero_iff hv).1 hfraction
    exact ⟨n, hv⟩

/-- The greatest size of an integer that is taken, `2 ^ 53`. -/
def greatestExact : Float := 9007199254740992.0

/-- `greatestExact` stands for `2 ^ 53`. -/
theorem value?_greatestExact : (Exact.ofFloat greatestExact).value? = some (2 ^ 53) := by
  have hparts : Exact.ofFloat greatestExact = .finite false (2 ^ 52) 1 := by decide +kernel
  rw [hparts]
  norm_num [Exact.value?]

/-- Whether a number is not taken as an integer: infinite or no number, not integral, or too great. -/
def refusesInteger (x : Float) : Bool :=
  !x.isFinite || fraction x != 0.0 || greatestExact < x.abs

/-- `refusesInteger` lets through exactly the numbers of `IsExactInteger`. -/
theorem refusesInteger_eq_false_iff : refusesInteger x = false ↔ ∃ n, IsExactInteger x n := by
  have hbound {n : ℤ} (hn : (Exact.ofFloat x).value? = some (n : ℚ)) :
      ¬greatestExact < x.abs ↔ n.natAbs ≤ 2 ^ 53 := by
    rw [lt_iff_of_value? value?_greatestExact (value?_abs hn), not_lt, ← Int.cast_abs,
      Int.abs_eq_natAbs]
    norm_cast
  have htests : refusesInteger x = false ↔ isIntegral x = true ∧ ¬greatestExact < x.abs := by
    rw [isIntegral_eq]
    simp [refusesInteger, bne]
  rw [htests, isIntegral_iff]
  constructor
  · rintro ⟨⟨n, hn⟩, hle⟩
    exact ⟨n, hn, (hbound hn).1 hle⟩
  · rintro ⟨n, hn, hle⟩
    exact ⟨⟨n, hn⟩, (hbound hn).2 hle⟩

/-- A number of `IsExactInteger` is far within the words, so that it becomes one without a loss. -/
theorem IsExactInteger.toInt_toInt64 (h : IsExactInteger x n) : x.toModel.toInt64.toInt = n := by
  have hsize := h.2
  rw [toInt_toInt64_of_value? h.1, wholePart_intCast]
  omega

end ScriptCore.Number
