import ScriptCore.Proofs.Number.Comparison
import ScriptCore.Proofs.Number.Truncation

/-!
# Rounding

The machine computes a number with as many bits as it needs, cuts bits off until 53 are left, and
rounds by what was cut off.  Whatever the rounding does, it never passes a number that needs no
rounding: that alone is enough to order results of calculations.  Results whose size would be rounded
up to `2 ^ 1024` are infinite.

* `Represents`: what the machine keeps of the bits that it cuts off;
* `OnGrid`: the rational numbers that need no rounding;
* `Rounded`: how a result is related to the exact one;
* `rounded_roundWithAccuracy`, `rounded_round`: the machine rounds so.
-/

namespace ScriptCore.Number

open Float.Model (Format UnpackedFloat totalExponent)
open Float.Model.UnpackedFloat

variable {em : ExtendedMantissa} {s : Sign} {k m n : Nat} {e t : Int} {u v x : ℚ}

/-! ## What is cut off -/

/-- A significand and the two bits that are kept of what was cut off stand for a number: the first
bit of it, and whether there is anything behind that. -/
def Represents : ExtendedMantissa → ℚ → Prop
  | ⟨m, false, false⟩, x => x = m
  | ⟨m, false, true⟩, x => m < x ∧ x < m + 1 / 2
  | ⟨m, true, false⟩, x => x = m + 1 / 2
  | ⟨m, true, true⟩, x => m + 1 / 2 < x ∧ x < m + 1

namespace Represents

/-- A significand of which nothing was cut off stands for itself. -/
theorem exact (m : Nat) : Represents (.ofMantissaAndAccuracy m .exact) m := rfl

/-- `accuracyOfFraction` keeps of a quotient of natural numbers what the remainder says. -/
theorem fraction (hn : 0 < n) : Represents
    (.ofMantissaAndAccuracy (m / n) (accuracyOfFraction (m % n) n)) ((m : ℚ) / n) := by
  have hn' : (0 : ℚ) < n := Nat.cast_pos.2 hn
  have hlt : ((m % n : Nat) : ℚ) < n := Nat.cast_lt.2 (Nat.mod_lt m hn)
  have hquotient : (m : ℚ) / n = (m / n : Nat) + (m % n : Nat) / n := by
    rw [div_eq_iff hn'.ne', add_mul, div_mul_cancel₀ _ hn'.ne']
    exact_mod_cast (Nat.div_add_mod' m n).symm
  rw [hquotient, accuracyOfFraction]
  -- Without a remainder nothing is cut off; else twice the remainder is compared with the divisor.
  split
  next hzero => simp [hzero, ExtendedMantissa.ofMantissaAndAccuracy, Represents]
  next hne =>
    have hpos : (0 : ℚ) < (m % n : Nat) := Nat.cast_pos.2 (Nat.pos_of_ne_zero hne)
    cases horder : compare (2 * (m % n)) n with
    | lt =>
      rw [Nat.compare_eq_lt, ← Nat.cast_lt (α := ℚ), Nat.cast_mul, Nat.cast_two] at horder
      constructor
      · linarith [div_pos hpos hn']
      · rw [add_lt_add_iff_left, div_lt_div_iff₀ hn' two_pos]
        linarith
    | eq =>
      rw [Nat.compare_eq_eq, ← Nat.cast_inj (R := ℚ), Nat.cast_mul, Nat.cast_two] at horder
      show _ = _
      rw [add_right_inj, div_eq_div_iff hn'.ne' two_ne_zero]
      linarith
    | gt =>
      rw [Nat.compare_eq_gt, ← Nat.cast_lt (α := ℚ), Nat.cast_mul, Nat.cast_two] at horder
      constructor
      · rw [add_lt_add_iff_left, div_lt_div_iff₀ two_pos hn']
        linarith
      · rw [add_lt_add_iff_left, div_lt_one hn']
        exact hlt

/-- What a significand `Represents` is not below it. -/
theorem mantissa_le (h : Represents em x) : em.mantissa ≤ x := by
  obtain ⟨m, round, sticky⟩ := em
  cases round <;> cases sticky <;> simp only [Represents] at h ⊢ <;> linarith

/-- What a significand `Represents` is below the next one. -/
theorem lt_mantissa_add_one (h : Represents em x) : x < em.mantissa + 1 := by
  obtain ⟨m, round, sticky⟩ := em
  cases round <;> cases sticky <;> simp only [Represents] at h ⊢ <;> linarith

/-- `shiftRightOne` cuts one more bit off. -/
theorem shiftRightOne (h : Represents em x) : Represents em.shiftRightOne (x / 2) := by
  obtain ⟨m, round, sticky⟩ := em
  have hhalf : (m : ℚ) = 2 * (m / 2 : Nat) + (m % 2 : Nat) := by
    exact_mod_cast (Nat.div_add_mod m 2).symm
  rw [ExtendedMantissa.shiftRightOne]
  -- The bit that is cut off comes first now, and the other two are put together.
  cases Nat.mod_two_eq_zero_or_one m with
  | inl hbit | inr hbit =>
    rw [hbit] at hhalf ⊢
    push_cast at hhalf
    cases round <;> cases sticky
    -- What was kept before is nothing, less than a half, a half, or more than a half.
    · show _ = _
      rw [Represents] at h
      linarith
    · obtain ⟨hlow, hhigh⟩ := h
      constructor <;> linarith
    · rw [Represents] at h
      constructor <;> linarith
    · obtain ⟨hlow, hhigh⟩ := h
      constructor <;> linarith

/-- `k` more bits are cut off by `k` shifts. -/
theorem shiftRight (h : Represents em x) (k : Nat) : Represents (em >>> k) (x / 2 ^ k) := by
  induction k with
  | zero =>
    rw [pow_zero, div_one]
    exact h
  | succ k ih =>
    rw [pow_succ, ← div_div]
    exact ih.shiftRightOne

/-! The significand is rounded to one of the two natural numbers next to what it stands for. -/

/-- Rounding does not go below the significand. -/
theorem mantissa_le_rounded (em : ExtendedMantissa) : em.mantissa ≤ em.roundedMantissa := by
  obtain ⟨m, round, sticky⟩ := em
  cases round <;> cases sticky <;>
    simp [ExtendedMantissa.roundedMantissa, ExtendedMantissa.accuracy, Accuracy.roundToNearestEven]

/-- Rounding does not go above the next significand. -/
theorem rounded_le_mantissa_add_one (em : ExtendedMantissa) :
    em.roundedMantissa ≤ em.mantissa + 1 := by
  obtain ⟨m, round, sticky⟩ := em
  cases round <;> cases sticky <;>
    simp only [ExtendedMantissa.roundedMantissa, ExtendedMantissa.accuracy,
      Accuracy.roundToNearestEven] <;>
    omega

/-- A natural number that is not above what is represented is not above the rounded one. -/
theorem le_rounded (h : Represents em x) (hn : n ≤ x) : n ≤ em.roundedMantissa := by
  have hlt : (n : ℚ) < (em.mantissa + 1 : Nat) := by
    push_cast
    exact hn.trans_lt h.lt_mantissa_add_one
  exact (Nat.lt_succ_iff.1 (Nat.cast_lt.1 hlt)).trans (mantissa_le_rounded em)

/-- An odd number is passed from the next half on, since the number after it is even. -/
theorem rounded_le_iff_of_odd (h : Represents em x) (hn : n % 2 = 1) :
    em.roundedMantissa ≤ n ↔ x < n + 1 / 2 := by
  have hle := mantissa_le_rounded em
  have hle' := rounded_le_mantissa_add_one em
  have hlow := h.mantissa_le
  have hhigh := h.lt_mantissa_add_one
  obtain hlt | heq | hgt := Nat.lt_trichotomy em.mantissa n
  · have hcast : ((em.mantissa + 1 : Nat) : ℚ) ≤ n := Nat.cast_le.2 hlt
    push_cast at hcast
    exact iff_of_true (by omega) (by linarith)
  · obtain ⟨m, round, sticky⟩ := em
    obtain rfl : m = n := heq
    -- At the significand itself, what was cut off decides: less than a half, or a half or more.
    cases round <;> cases sticky <;>
      simp only [Represents, ExtendedMantissa.roundedMantissa, ExtendedMantissa.accuracy,
        Accuracy.roundToNearestEven] at h ⊢
    · exact iff_of_true le_rfl (by linarith)
    · exact iff_of_true le_rfl (by linarith)
    · exact iff_of_false (by omega) (by linarith)
    · exact iff_of_false (by omega) (by linarith)
  · have hcast : ((n + 1 : Nat) : ℚ) ≤ em.mantissa := Nat.cast_le.2 hgt
    push_cast at hcast
    exact iff_of_false (by omega) (by linarith)

/-- A natural number that is not below what is represented is not below the rounded one. -/
theorem rounded_le (h : Represents em x) (hn : x ≤ n) : em.roundedMantissa ≤ n := by
  have hle := rounded_le_mantissa_add_one em
  obtain hlt | hge := Nat.lt_or_ge em.mantissa n
  · omega
  · -- Then nothing was cut off.
    have hcast : (n : ℚ) ≤ em.mantissa := Nat.cast_le.2 hge
    obtain ⟨m, round, sticky⟩ := em
    cases round <;> cases sticky <;> simp only [Represents] at h hcast
    · obtain rfl : m = n := Nat.cast_injective (R := ℚ) (by linarith)
      exact le_rfl
    · linarith
    · linarith
    · linarith

end Represents

/-! ## Numbers that need no rounding -/

/-- A rational number has a significand of up to 53 bits and an exponent that is not below the least
one. -/
def OnGrid (u : ℚ) : Prop := ∃ (m : Nat) (e : Int), m < 2 ^ 53 ∧ -1074 ≤ e ∧ |u| = m * 2 ^ e

/-- The sign makes no difference to `OnGrid`. -/
theorem OnGrid.neg (h : OnGrid u) : OnGrid (-u) := by
  rwa [OnGrid, abs_neg]

/-- Twice a number is `OnGrid` if the number is. -/
theorem OnGrid.two_mul (h : OnGrid u) : OnGrid (2 * u) := by
  obtain ⟨m, e, hm, he, hu⟩ := h
  refine ⟨m, e + 1, hm, by omega, ?_⟩
  rw [abs_mul, abs_two, hu, zpow_add_one₀ two_ne_zero]
  ring

/-- From this size on, results are infinite: half way from the greatest number to the next one that
the format would have. -/
def limit : ℚ := (2 ^ 54 - 1) * 2 ^ (970 : ℤ)

/-- A result is rounded from the exact number. -/
inductive Rounded (v : ℚ) (u : Exact) : Prop where
  /-- No number that needs no rounding is between the exact one and the result. -/
  | near {r : ℚ} (hu : u.value? = some r) (hv : |v| < limit)
    (below : ∀ g, OnGrid g → g ≤ v → g ≤ r) (above : ∀ g, OnGrid g → v ≤ g → r ≤ g)
  /-- Too great a number is infinite. -/
  | far (hu : u = .infinity (decide (v < 0))) (hv : limit ≤ |v|)

/-- `limit` is above zero. -/
theorem limit_pos : 0 < limit := mul_pos (by norm_num) (zpow_pos two_pos _)

/-- The sign makes no difference to `Rounded`. -/
theorem Rounded.neg {r : Exact} (h : Rounded v r) : Rounded (-v) r.neg := by
  cases h with
  | @near w hr hv below above =>
    have hvalue : r.neg.value? = some (-w) := by rw [Exact.value?_neg, hr, Option.map_some]
    -- Below the opposite number is what is above the number with the other sign.
    apply near hvalue
    · rwa [abs_neg]
    · intro g hg hle
      have hle' := above (-g) hg.neg (by linarith)
      linarith
    · intro g hg hle
      have hle' := below (-g) hg.neg (by linarith)
      linarith
  | far hr hv =>
    have hne : v ≠ 0 := by
      intro hzero
      rw [hzero, abs_zero] at hv
      exact limit_pos.not_ge hv
    apply far
    · obtain hlt | hgt := lt_or_gt_of_ne hne
      · simp [hr, Exact.neg, hlt, hlt.le]
      · simp [hr, Exact.neg, hgt, hgt.le]
    · rwa [abs_neg]

/-! ## Cutting off -/

/-- The number `v` is cut to 53 bits, or to less if the exponent is the least one. -/
structure Cut (em : ExtendedMantissa) (t : Int) (v : ℚ) : Prop where
  represents : Represents em (v / 2 ^ t)
  mantissa_lt : em.mantissa < 2 ^ 53
  least_le : -1074 ≤ t
  normal : 2 ^ 52 ≤ em.mantissa ∨ t = -1074

namespace Cut

/-- `Cut` has a significand that is not rounded up to more than `2 ^ 53`. -/
theorem rounded_le (h : Cut em t v) : em.roundedMantissa ≤ 2 ^ 53 :=
  (Represents.rounded_le_mantissa_add_one em).trans h.mantissa_lt

/-- What is `Cut` is not below zero. -/
theorem nonneg (h : Cut em t v) : 0 ≤ v := by
  have hle := (Nat.cast_nonneg em.mantissa).trans h.represents.mantissa_le
  rwa [le_div_iff₀ (zpow_pos two_pos t), zero_mul] at hle

/-- What is `Cut` is not below its significand. -/
theorem mantissa_mul_le (h : Cut em t v) : em.mantissa * 2 ^ t ≤ v := by
  rw [← le_div_iff₀ (zpow_pos two_pos t)]
  exact h.represents.mantissa_le

/-- What is `Cut` is below the next significand. -/
theorem lt_mantissa_mul (h : Cut em t v) : v < (em.mantissa + 1) * 2 ^ t := by
  rw [← div_lt_iff₀ (zpow_pos two_pos t)]
  exact h.represents.lt_mantissa_add_one

/-- A number on the grid with an exponent that is not below that of the cut is a natural number of
its units. -/
theorem exists_natCast {f : Int} (hf : t ≤ f) (n : Nat) : ∃ k : Nat, (n * 2 ^ f : ℚ) = k * 2 ^ t := by
  obtain ⟨d, hd⟩ := Int.eq_ofNat_of_zero_le (Int.sub_nonneg.2 hf)
  refine ⟨n * 2 ^ d, ?_⟩
  obtain rfl : f = d + t := by omega
  rw [zpow_add₀ two_ne_zero, zpow_natCast]
  push_cast
  ring

/-- A number on the grid with a lesser exponent has less than 52 bits of its units. -/
theorem mul_zpow_lt {f : Int} (hf : f < t) (hn : n < 2 ^ 53) : (n * 2 ^ f : ℚ) < 2 ^ 52 * 2 ^ t := by
  have hn' : (n : ℚ) < 2 ^ 53 := by exact_mod_cast hn
  calc (n * 2 ^ f : ℚ) < 2 ^ 53 * 2 ^ f := mul_lt_mul_of_pos_right hn' (zpow_pos two_pos f)
    _ = 2 ^ 52 * 2 ^ (f + 1) := by rw [zpow_add_one₀ two_ne_zero]; ring
    _ ≤ 2 ^ 52 * 2 ^ t :=
      mul_le_mul_of_nonneg_left (zpow_le_zpow_right₀ one_le_two hf) (by positivity)

/-- With a lesser exponent on the grid there is no number that is not below the significand of the
`Cut`. -/
theorem mul_zpow_lt_mantissa (h : Cut em t v) {f : Int} (hf : f < t) (hleast : -1074 ≤ f)
    (hn : n < 2 ^ 53) : (n * 2 ^ f : ℚ) < em.mantissa * 2 ^ t := by
  have hnormal : 2 ^ 52 ≤ em.mantissa := h.normal.resolve_right (by omega)
  have hcast : (2 ^ 52 : ℚ) ≤ em.mantissa := by exact_mod_cast hnormal
  exact (mul_zpow_lt hf hn).trans_le (mul_le_mul_of_nonneg_right hcast (zpow_pos two_pos t).le)

/-- Rounding does not pass a lesser number that is `OnGrid`. -/
theorem onGrid_le (h : Cut em t v) (hu : OnGrid u) (hle : u ≤ v) :
    u ≤ em.roundedMantissa * 2 ^ t := by
  have hpos : (0 : ℚ) < 2 ^ t := zpow_pos two_pos t
  obtain ⟨n, f, hn, hf, hsize⟩ := hu
  obtain hneg | hnonneg := lt_or_ge u 0
  · exact hneg.le.trans (by positivity)
  · rw [abs_of_nonneg hnonneg] at hsize
    -- With a lesser exponent the number is below the significand; else it is one of its units.
    obtain hlt | hge := lt_or_ge f t
    · rw [hsize]
      apply (h.mul_zpow_lt_mantissa hlt hf hn).le.trans
      exact mul_le_mul_of_nonneg_right
        (Nat.cast_le.2 (Represents.mantissa_le_rounded em)) hpos.le
    · obtain ⟨k, hk⟩ := exists_natCast hge n
      rw [hsize, hk] at hle ⊢
      apply mul_le_mul_of_nonneg_right _ hpos.le
      exact Nat.cast_le.2 (h.represents.le_rounded ((le_div_iff₀ hpos).2 hle))

/-- Rounding does not pass a greater number that is `OnGrid`. -/
theorem le_onGrid (h : Cut em t v) (hu : OnGrid u) (hle : v ≤ u) :
    em.roundedMantissa * 2 ^ t ≤ u := by
  have hpos : (0 : ℚ) < 2 ^ t := zpow_pos two_pos t
  obtain ⟨n, f, hn, hf, hsize⟩ := hu
  rw [abs_of_nonneg (h.nonneg.trans hle)] at hsize
  obtain hlt | hge := lt_or_ge f t
  · -- A number with a lesser exponent is below the cut one.
    have hbelow := (h.mul_zpow_lt_mantissa hlt hf hn).trans_le h.mantissa_mul_le
    rw [← hsize] at hbelow
    exact absurd hle hbelow.not_ge
  · obtain ⟨k, hk⟩ := exists_natCast hge n
    rw [hsize, hk] at hle ⊢
    apply mul_le_mul_of_nonneg_right _ hpos.le
    exact Nat.cast_le.2 (h.represents.rounded_le ((div_le_iff₀ hpos).2 hle))

/-- `limit` is reached by the numbers that are rounded to `2 ^ 1024` or more. -/
theorem limit_le_iff (h : Cut em t v) :
    limit ≤ v ↔ 972 ≤ t ∨ t = 971 ∧ em.roundedMantissa = 2 ^ 53 := by
  obtain hlt | rfl | hgt := lt_trichotomy t 971
  · -- The number is below `2 ^ 1023`.
    have hbelow : v < 2 ^ 53 * 2 ^ (970 : ℤ) := by
      have hcast : (em.mantissa + 1 : ℚ) ≤ 2 ^ 53 := by exact_mod_cast h.mantissa_lt
      calc v < (em.mantissa + 1) * 2 ^ t := h.lt_mantissa_mul
        _ ≤ 2 ^ 53 * 2 ^ t := mul_le_mul_of_nonneg_right hcast (zpow_pos two_pos t).le
        _ ≤ 2 ^ 53 * 2 ^ (970 : ℤ) :=
          mul_le_mul_of_nonneg_left (zpow_le_zpow_right₀ one_le_two (by omega)) (by positivity)
    have hlimit : 2 ^ 53 * 2 ^ (970 : ℤ) ≤ limit :=
      mul_le_mul_of_nonneg_right (by norm_num) (zpow_pos two_pos _).le
    exact iff_of_false (hbelow.trans_le hlimit).not_ge (by omega)
  · -- Only the greatest significand can be rounded up to a power of two.
    have hodd := h.represents.rounded_le_iff_of_odd (n := 2 ^ 53 - 1) (by norm_num)
    have hsize : v / 2 ^ (971 : ℤ) < (2 ^ 53 - 1 : Nat) + 1 / 2 ↔ v < limit := by
      have hexponent : (2 : ℚ) ^ (971 : ℤ) = 2 * 2 ^ (970 : ℤ) := zpow_one_add₀ two_ne_zero 970
      rw [div_lt_iff₀ (zpow_pos two_pos _), limit, hexponent, ← mul_assoc]
      norm_num
    have hle := h.rounded_le
    rw [hsize, ← not_le] at hodd
    rw [← not_iff_not, ← hodd]
    omega
  -- With a greater exponent the significand has all of its bits, so the number is at least
  -- `2 ^ 1024`.
  · have habove : 2 ^ 52 * 2 ^ (972 : ℤ) ≤ v := by
      have hcast : (2 ^ 52 : ℚ) ≤ em.mantissa := by
        exact_mod_cast h.normal.resolve_right (by omega)
      calc (2 ^ 52 * 2 ^ (972 : ℤ) : ℚ) ≤ 2 ^ 52 * 2 ^ t :=
          mul_le_mul_of_nonneg_left (zpow_le_zpow_right₀ one_le_two (by omega)) (by positivity)
        _ ≤ em.mantissa * 2 ^ t := mul_le_mul_of_nonneg_right hcast (zpow_pos two_pos t).le
        _ ≤ v := h.mantissa_mul_le
    have hlimit : limit ≤ 2 ^ 52 * 2 ^ (972 : ℤ) := by
      have hexponent : (2 : ℚ) ^ (972 : ℤ) = 2 ^ 2 * 2 ^ (970 : ℤ) := by
        rw [← zpow_natCast, ← zpow_add₀ two_ne_zero]
        rfl
      rw [limit, hexponent, ← mul_assoc]
      exact mul_le_mul_of_nonneg_right (by norm_num) (zpow_pos two_pos _).le
    exact iff_of_true (hlimit.trans habove) (.inl hgt)

end Cut

/-- What is left of a number is `Cut` when it has been shifted to its target exponent. -/
theorem cut_shiftRight {accuracy : Accuracy}
    (h : Represents (.ofMantissaAndAccuracy m accuracy) (v / 2 ^ e))
    (ht : Format.binary64.targetExponent (totalExponent m e) = t) (he : e ≤ t) :
    Cut (ExtendedMantissa.ofMantissaAndAccuracy m accuracy >>> (t - e).toNat) t v := by
  obtain ⟨k, hk⟩ := Int.eq_ofNat_of_zero_le (Int.sub_nonneg.2 he)
  obtain rfl : t = e + k := by omega
  have hmantissa : (ExtendedMantissa.ofMantissaAndAccuracy m accuracy >>> k).mantissa =
      m / 2 ^ k := by
    rw [mantissa_shiftRight]
    cases accuracy with
    | exact => rfl
    | inexact order => cases order <;> rfl
  have htarget : e + k = max (m.log2 + 1 + e - 53) (-1074) := ht.symm
  rw [hk, Int.toNat_natCast]
  constructor
  · rw [zpow_add₀ two_ne_zero, zpow_natCast, ← div_div]
    exact h.shiftRight k
  -- The significand is shifted to 53 bits.
  · rw [hmantissa]
    apply Nat.div_lt_of_lt_mul
    rw [← pow_add]
    exact Nat.lt_log2_self.trans_le (Nat.pow_le_pow_right two_pos (by omega))
  · omega
  · rw [hmantissa]
    -- It keeps the first of them, unless the exponent is the least one.
    by_cases hleast : e + k = -1074
    · exact .inr hleast
    · have hm : m ≠ 0 := by
        rintro rfl
        simp at htarget
        omega
      left
      rw [Nat.le_div_iff_mul_le (Nat.two_pow_pos k), ← pow_add]
      exact (Nat.pow_le_pow_right two_pos (by omega)).trans (Nat.log2_self_le hm)

/-! ## The machine -/

/-- `shiftToTargetExponent` cuts one more bit off a significand that has been rounded up to a power
of two; another one stays as it is. -/
theorem shiftToTargetExponent_of_le {r : Nat} (hr : r ≤ 2 ^ 53) (ht : -1074 ≤ t) :
    (shiftToTargetExponent Format.binary64 r t .exact).1.mantissa =
      (if r = 2 ^ 53 then 2 ^ 52 else r) ∧
    (shiftToTargetExponent Format.binary64 r t .exact).2 = if r = 2 ^ 53 then t + 1 else t := by
  have htarget : Format.binary64.targetExponent (totalExponent r t) =
      max (r.log2 + 1 + t - 53) (-1074) := rfl
  simp only [shiftToTargetExponent, shiftToExponent, htarget, mantissa_shiftRight,
    ExtendedMantissa.ofMantissaAndAccuracy]
  split
  next heq =>
    have hlog : r.log2 = 53 := by rw [heq, Nat.log2_two_pow]
    have hshift : (max ((r.log2 : Int) + 1 + t - 53) (-1074) - t).toNat = 1 := by omega
    rw [hshift, heq]
    exact ⟨rfl, rfl⟩
  next hne =>
    have hlog : r.log2 ≤ 52 := by
      by_cases hzero : r = 0
      · simp [hzero]
      · exact Nat.lt_succ_iff.1 ((Nat.log2_lt hzero).2 (by omega))
    have hshift : (max ((r.log2 : Int) + 1 + t - 53) (-1074) - t).toNat = 0 := by omega
    rw [hshift, pow_zero, Nat.div_one]
    exact ⟨rfl, by omega⟩

/-- `roundWithAccuracy` gives parts that are canonical, unless they are all zero. -/
theorem read_roundWithAccuracy {accuracy : Accuracy}
    (ht : Format.binary64.targetExponent (totalExponent m e) = t) (he : e ≤ t)
    (hem : ExtendedMantissa.ofMantissaAndAccuracy m accuracy >>> (t - e).toNat = em)
    (hcut : Cut em t v) :
    ∃ (m' : Nat) (e' : Int), Exact.read (roundWithAccuracy Format.binary64 s m e accuracy) =
        (if e' ≤ 971 then .finite (s == .negative) m' e' else .infinity (s == .negative)) ∧
      (m' * 2 ^ e' : ℚ) = em.roundedMantissa * 2 ^ t ∧
      (e' ≤ 971 ↔ ¬(972 ≤ t ∨ t = 971 ∧ em.roundedMantissa = 2 ^ 53)) := by
  have hamount : e + ((t - e).toNat : Int) = t := by omega
  have hfirst : shiftToTargetExponent Format.binary64 m e accuracy = (em, t) := by
    simp only [shiftToTargetExponent, shiftToExponent, ht, hem, hamount]
  have hle := hcut.rounded_le
  have hleast := hcut.least_le
  have hrounded := Represents.mantissa_le_rounded em
  have hnormal : 2 ^ 52 ≤ em.roundedMantissa ∨ t = -1074 := by
    have hnormal := hcut.normal
    omega
  obtain ⟨hmantissa, hexponent⟩ := shiftToTargetExponent_of_le hle hleast
  rw [roundWithAccuracy, hfirst]
  simp only [hmantissa, hexponent]
  -- Rounded up to `2 ^ 53`, the significand becomes `2 ^ 52` and the exponent grows by one.
  by_cases heq : em.roundedMantissa = 2 ^ 53
  · have hgreatest : t + 1 ≤ 971 ↔ ¬(972 ≤ t ∨ t = 971 ∧ em.roundedMantissa = 2 ^ 53) := by
      simp only [heq, and_true]
      omega
    refine ⟨2 ^ 52, t + 1, ?_, ?_, hgreatest⟩
    · simp only [heq, if_true]
      exact Exact.read_finite (by decide) ⟨by decide, by omega, .inl le_rfl⟩
    · rw [heq, zpow_add_one₀ two_ne_zero]
      push_cast
      ring
  · have hgreatest : t ≤ 971 ↔ ¬(972 ≤ t ∨ t = 971 ∧ em.roundedMantissa = 2 ^ 53) := by
      simp only [heq, and_false, or_false]
      omega
    refine ⟨em.roundedMantissa, t, ?_, rfl, hgreatest⟩
    simp only [heq, if_false]
    split
    next hzero =>
      obtain rfl : t = -1074 := by omega
      rw [Exact.read_zero, hzero]
      rfl
    next hne =>
      exact Exact.read_finite _ ⟨by omega, hleast, hnormal⟩

/-- The factor that a sign stands for. -/
def factor : Sign → ℚ
  | .negative => -1
  | .positive => 1

/-- `roundWithAccuracy` rounds by what has been cut off. -/
theorem rounded_roundWithAccuracy {accuracy : Accuracy}
    (h : Represents (.ofMantissaAndAccuracy m accuracy) (v / 2 ^ e))
    (he : e ≤ Format.binary64.targetExponent (totalExponent m e)) :
    Rounded (factor s * v)
      (Exact.read (roundWithAccuracy Format.binary64 s m e accuracy)) := by
  generalize ht : Format.binary64.targetExponent (totalExponent m e) = t at he
  have hcut := cut_shiftRight h ht he
  generalize hem : ExtendedMantissa.ofMantissaAndAccuracy m accuracy >>> (t - e).toNat = em at hcut
  obtain ⟨m', e', hread, hvalue, hexponent⟩ := read_roundWithAccuracy (s := s) ht he hem hcut
  have hnonneg := hcut.nonneg
  rw [← hcut.limit_le_iff, not_le] at hexponent
  -- Rounding is told above zero, and the sign is put in front afterwards.
  have hpositive : Rounded v (if e' ≤ 971 then .finite false m' e' else .infinity false) := by
    split
    next hfinite =>
      have hone : (Exact.finite false m' e').value? = some (m' * 2 ^ e' : ℚ) := by
        simp [Exact.value?]
      apply Rounded.near hone
      · rw [abs_of_nonneg hnonneg]
        exact hexponent.1 hfinite
      · intro g hg hle
        rw [hvalue]
        exact hcut.onGrid_le hg hle
      · intro g hg hle
        rw [hvalue]
        exact hcut.le_onGrid hg hle
    next hinfinite =>
      apply Rounded.far
      · rw [decide_eq_false hnonneg.not_gt]
      · rw [abs_of_nonneg hnonneg]
        exact not_lt.1 fun hlt => hinfinite (hexponent.2 hlt)
  rw [hread]
  cases s with
  | positive =>
    show Rounded (1 * v) _
    rw [one_mul]
    exact hpositive
  | negative =>
    show Rounded (-1 * v) _
    rw [neg_one_mul]
    convert hpositive.neg using 1
    split <;> rfl

/-- Zeros added to a number are as many bits more. -/
theorem log2_mul_two_pow (hm : m ≠ 0) (k : Nat) : (m * 2 ^ k).log2 = m.log2 + k := by
  induction k with
  | zero => simp
  | succ k ih =>
    have hne : m * 2 ^ k ≠ 0 := Nat.mul_ne_zero hm (Nat.two_pow_pos k).ne'
    rw [Nat.pow_succ', Nat.mul_left_comm, Nat.log2_two_mul hne, ih, Nat.add_assoc]

/-- `round` writes a number with a lesser exponent, adding zeros. -/
theorem rounded_round (hm : 0 < m) : Rounded (factor s * (m * 2 ^ e))
    (Exact.read (UnpackedFloat.round Format.binary64 s m e)) := by
  have htarget (m : Nat) (e : Int) : Format.binary64.targetExponent (totalExponent m e) =
      max (m.log2 + 1 + e - 53) (-1074) := rfl
  simp only [UnpackedFloat.round, decreaseExponent, Nat.shiftLeft_eq]
  generalize hk : (e - Format.binary64.targetExponent (totalExponent m e)).toNat = k
  rw [htarget] at hk
  have hlog := log2_mul_two_pow hm.ne' k
  apply rounded_roundWithAccuracy
  · have hvalue : (m * 2 ^ e : ℚ) / 2 ^ (e - k) = (m * 2 ^ k : Nat) := by
      rw [zpow_sub₀ two_ne_zero, zpow_natCast]
      push_cast
      field_simp
    rw [hvalue]
    exact .exact _
  · rw [htarget, hlog]
    omega

end ScriptCore.Number
