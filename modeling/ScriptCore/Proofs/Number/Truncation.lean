import Mathlib
import ScriptCore.Proofs.Number.Integer

/-!
# Dropping the fraction of a number

Without its fraction, a finite binary64 number is the whole part of the rational number that it stands
for: rounded down from zero on, and up below zero.  The machine does the same when it makes a word of
a number, but stops at the greatest word.

* `Exact.truncated?_eq`: what is left of a number without its fraction;
* `abs_sub_wholePart`: what is dropped;
* `toNat_toUInt64_of_value?`, `toInt_toInt64_of_value?`: the words that the machine makes of a number.
-/

namespace ScriptCore.Number

open Float.Model (UnpackedFloat)
open Float.Model.UnpackedFloat

variable {x : Float} {v : ℚ}

/-! ## Whole parts -/

/-- A rational number without its fraction. -/
def wholePart (v : ℚ) : ℤ := if 0 ≤ v then ⌊v⌋ else ⌈v⌉

/-- `wholePart` of an integer is the integer. -/
@[simp] theorem wholePart_intCast (n : ℤ) : wholePart n = n := by
  unfold wholePart
  split <;> simp

/-- `wholePart` rounds down from zero on. -/
theorem wholePart_of_nonneg (hv : 0 ≤ v) : wholePart v = ⌊v⌋ := if_pos hv

/-- `wholePart` drops the same under the other sign. -/
theorem wholePart_neg_of_nonneg (hv : 0 ≤ v) : wholePart (-v) = -⌊v⌋ := by
  unfold wholePart
  split
  · have hzero : v = 0 := by linarith
    simp [hzero]
  · exact Int.ceil_neg

/-- `wholePart` drops the fraction from the size of a number below zero. -/
theorem wholePart_of_nonpos (hv : v ≤ 0) : wholePart v = -⌊-v⌋ := by
  rw [← wholePart_neg_of_nonneg (neg_nonneg.2 hv), neg_neg]

/-- `wholePart` is not greater in size than the number, whatever the signs. -/
theorem abs_wholePart_le (v : ℚ) : |(wholePart v : ℚ)| ≤ |v| := by
  -- From zero on the number is rounded down; below zero the same holds of the opposite number.
  have hfloor {u : ℚ} (hu : 0 ≤ u) : |(⌊u⌋ : ℚ)| ≤ u := by
    rw [abs_of_nonneg (by exact_mod_cast Int.floor_nonneg.2 hu)]
    exact Int.floor_le u
  cases le_total 0 v with
  | inl hv =>
    rw [wholePart_of_nonneg hv, abs_of_nonneg hv]
    exact hfloor hv
  | inr hv =>
    rw [wholePart_of_nonpos hv, abs_of_nonpos hv, Int.cast_neg, abs_neg]
    exact hfloor (neg_nonneg.2 hv)

/-- `wholePart` drops the fraction of the size. -/
theorem abs_sub_wholePart (v : ℚ) : |v - wholePart v| = Int.fract |v| := by
  cases le_total 0 v with
  | inl hv => rw [wholePart_of_nonneg hv, abs_of_nonneg hv, Int.self_sub_floor, Int.abs_fract]
  | inr hv =>
    rw [wholePart_of_nonpos hv, abs_of_nonpos hv, Int.cast_neg, sub_neg_eq_add, ← abs_neg, neg_add',
      Int.self_sub_floor, Int.abs_fract]

/-- `wholePart` leaves nothing between minus one and zero. -/
theorem wholePart_eq_zero (hlow : -1 < v) (hhigh : v < 0) : wholePart v = 0 := by
  unfold wholePart
  rw [if_neg hhigh.not_ge, Int.ceil_eq_zero_iff]
  exact ⟨hlow, hhigh.le⟩

namespace Exact

/-- `truncated?` gives the whole part of what a number stands for. -/
theorem truncated?_eq (e : Exact) : e.truncated? = e.value?.map wholePart := by
  cases e with
  | notANumber => rfl
  | infinity => rfl
  | finite negative m e =>
    have hpositive := size_nonneg m e
    rw [truncated?, value?, Option.map_some, ← floor_size]
    cases negative with
    | false => simp [wholePart_of_nonneg hpositive]
    | true => simp [wholePart_neg_of_nonneg hpositive]

end Exact

/-! ## Words -/

/-- A shift divides the significand, whatever is kept of the other bits. -/
theorem mantissa_shiftRight (em : ExtendedMantissa) (k : Nat) :
    (em >>> k).mantissa = em.mantissa / 2 ^ k := by
  induction k with
  | zero => simp [HShiftRight.hShiftRight, Nat.repeat]
  | succ k ih =>
    show (ExtendedMantissa.shiftRightOne (em >>> k)).mantissa = _
    simp only [ExtendedMantissa.shiftRightOne, ih, Nat.div_div_eq_div_mul, Nat.pow_succ]

/-- `roundToInt`, with which the machine drops the fraction, shifts it out. -/
theorem truncated?_ofUnpacked {s : Sign} {m : Nat} {e : Int} (hm : 0 < m) :
    (Exact.ofUnpacked (.finite s m e hm)).truncated? = some (roundToInt s m e) := by
  have hsize : (shiftToExponent (decreaseExponent m e 0).1 (decreaseExponent m e 0).2 .exact
      0).1.mantissa = if 0 ≤ e then m * Nat.pow 2 e.toNat else m / Nat.pow 2 (-e).toNat := by
    simp only [shiftToExponent, decreaseExponent, mantissa_shiftRight,
      ExtendedMantissa.ofMantissaAndAccuracy, Nat.shiftLeft_eq, Nat.pow_eq]
    split
    -- With an exponent from zero on, zeros are put behind the significand, and nothing is shifted
    -- out.
    · have hnone : (0 - (e - ((e - 0).toNat : ℤ))).toNat = 0 := by omega
      rw [hnone, Int.sub_zero]
      simp
    -- With an exponent below zero, bits are shifted out and no zeros are added.
    · have hsame : (e - 0).toNat = 0 := by omega
      rw [hsame]
      simp
  rw [roundToInt, Exact.ofUnpacked, Exact.truncated?, ← hsize]
  cases s <;> rfl

/-- `toInt` takes the whole part of a finite number, whatever it takes for the infinite ones. -/
theorem toInt_unpack_of_value? (hv : (Exact.ofFloat x).value? = some v) (low high : ℤ) :
    x.toModel.unpack.toInt low high = wholePart v := by
  rw [Exact.ofFloat_eq] at hv
  cases hx : x.toModel.unpack with
  | notANumber => simp [hx, Exact.ofUnpacked, Exact.value?] at hv
  | infinity s => simp [hx, Exact.ofUnpacked, Exact.value?] at hv
  | zero s =>
    have hzero : v = (0 : ℤ) := by simpa [hx, Exact.ofUnpacked, Exact.value?] using hv.symm
    rw [hzero, wholePart_intCast]
    rfl
  | finite s m e hm =>
    have htruncated := Exact.truncated?_eq (Exact.ofUnpacked (.finite s m e hm))
    rw [truncated?_ofUnpacked, ← hx, hv] at htruncated
    exact Option.some.inj htruncated

/-- `toUInt64` of a number is its whole part, or the greatest word if that is beyond the words. -/
theorem toNat_toUInt64_of_value? (hv : (Exact.ofFloat x).value? = some v) :
    x.toUInt64.toNat = min (wholePart v).toNat (2 ^ 64 - 1) := by
  have hsize : UInt64.size = 2 ^ 64 := rfl
  show (UInt64.ofNatClamp (x.toModel.unpack.toInt 0 (UInt64.size - 1)).toNat).toNat = _
  rw [toInt_unpack_of_value? hv, UInt64.ofNatClamp]
  split <;> rw [UInt64.toNat_ofNatLT] <;> omega

/-- `toInt64` of a number is its whole part, bounded on both sides by the words. -/
theorem toInt_toInt64_of_value? (hv : (Exact.ofFloat x).value? = some v) :
    x.toModel.toInt64.toInt = max (-2 ^ 63) (min (wholePart v) (2 ^ 63 - 1)) := by
  have hleast : Int64.minValue.toInt = -2 ^ 63 := rfl
  have hgreatest : Int64.maxValue.toInt = 2 ^ 63 - 1 := rfl
  show (Int64.ofIntClamp (x.toModel.unpack.toInt Int64.minValue.toInt Int64.maxValue.toInt)).toInt = _
  rw [toInt_unpack_of_value? hv, Int64.ofIntClamp]
  split
  -- The whole part is a word, or above the greatest one, or below the least one.
  · split
    · rw [Int64.toInt_ofIntLE]
      omega
    · omega
  · omega

end ScriptCore.Number
