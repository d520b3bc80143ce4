import Mathlib
import ScriptCore.Proofs.Native.Argument

/-!
# Integers among the binary64 numbers

A binary64 number is made of an integer by shifting it until its significand has 53 bits, so an
integer of up to 53 bits keeps all of them.  Beyond that the last bit is lost, and with it the odd
numbers.

* `Exact.ofFloat_eq`: the sign, significand and exponent that are read off the bits are those that
  the machine computes with;
* `isExactInteger_ofNat`: the number of a natural number up to `2 ^ 53` stands for it;
* `even_of_value?`: an integer from `2 ^ 53` on that a binary64 number stands for is even.
-/

namespace ScriptCore.Number

open Float.Model (Format UnpackedFloat totalExponent)
open Float.Model.UnpackedFloat

variable {s : Sign} {m n : Nat} {e : Int} {x : Float}

namespace Exact

/-! ## The parts of a number -/

/-- What the parts stand for that the machine computes with. -/
def ofUnpacked : UnpackedFloat → Exact
  | .notANumber => .notANumber
  | .infinity s => .infinity (s == .negative)
  | .zero s => .finite (s == .negative) 0 (-1074)
  | .finite s m e _ => .finite (s == .negative) m e

/-- `unpackMantissa` takes the last 52 bits. -/
theorem toNat_unpackMantissa (b : BitVec Format.binary64.numBits) :
    (unpackMantissa b).toNat = b.toNat % 2 ^ 52 := by
  simp [unpackMantissa]

/-- `unpackExponent` takes the 11 bits before them. -/
theorem toNat_unpackExponent (b : BitVec Format.binary64.numBits) :
    (unpackExponent b).toNat = b.toNat / 2 ^ 52 % 2 ^ 11 := by
  simp [unpackExponent, Nat.shiftRight_eq_div_pow]

/-- `unpackSign` takes the first bit. -/
theorem ofBitVec_unpackSign (b : BitVec Format.binary64.numBits) :
    (Sign.ofBitVec (unpackSign b) == .negative) = decide (2 ^ 63 ≤ b.toNat) := by
  have hsign (v : BitVec 1) : (Sign.ofBitVec v == .negative) = decide (v.toNat = 1) := by
    revert v
    decide
  have hvalue : (unpackSign b).toNat = b.toNat / 2 ^ 63 % 2 := by
    simp [unpackSign, Nat.shiftRight_eq_div_pow]
  have hlt : b.toNat < 2 ^ 64 := b.isLt
  rw [hsign, decide_eq_decide, hvalue]
  omega

/-- The bit in front of the fraction, which is not written. -/
theorem toNat_append_one (fraction : BitVec 52) :
    (1#1 ++ fraction).toNat = 2 ^ 52 + fraction.toNat := by
  rw [BitVec.toNat_append, ← Nat.shiftLeft_add_eq_or_of_lt fraction.isLt, BitVec.toNat_ofNat]
  rfl

/-- `ofBits` reads bits as the machine does when it unpacks them. -/
theorem ofBits_eq (b : BitVec Format.binary64.numBits) :
    ofBits b.toNat = ofUnpacked (unpack Format.binary64 b) := by
  have hexponent := toNat_unpackExponent b
  have hmantissa := toNat_unpackMantissa b
  have hones : unpackExponent b = -1#_ ↔ b.toNat / 2 ^ 52 % 2 ^ 11 = 2 ^ 11 - 1 := by
    rw [← BitVec.toNat_inj, hexponent]
    rfl
  have hzeros : unpackExponent b = 0#_ ↔ b.toNat / 2 ^ 52 % 2 ^ 11 = 0 := by
    rw [← BitVec.toNat_inj, hexponent]
    rfl
  have hnone : unpackMantissa b = 0#_ ↔ b.toNat % 2 ^ 52 = 0 := by
    rw [← BitVec.toNat_inj, hmantissa]
    rfl
  have hbias : (Format.binary64.exponentBias : Int) = 1023 := rfl
  -- Both readings tell the same four kinds of numbers apart.
  rw [ofBits, unpack]
  simp only [hones, hzeros, hnone, Nat.pow_eq]
  -- The exponent tells what is not finite, then the numbers without a leading bit, and the others.
  split
  · split <;> simp only [ofUnpacked, ofBitVec_unpackSign]
  · split
    · split
      · rename_i hfraction
        simp only [ofUnpacked, ofBitVec_unpackSign, hfraction]
      · rename_i hexponentZero _
        simp only [ofUnpacked, ofBitVec_unpackSign, hmantissa, hexponent, hexponentZero, hbias]
        rfl
    · simp only [ofUnpacked, ofBitVec_unpackSign, toNat_append_one, hmantissa, hexponent, hbias]
      congr 1

/-- `Exact.ofFloat` has the parts that the machine computes with. -/
theorem ofFloat_eq (x : Float) : ofFloat x = ofUnpacked x.toModel.unpack :=
  ofBits_eq x.toBits.toBitVec

/-- The significand of a finite number has 53 bits at most. -/
theorem significand_lt {negative : Bool} (h : ofFloat x = .finite negative m e) : m < 2 ^ 53 := by
  have hfraction := Nat.mod_lt x.toBits.toNat (Nat.two_pow_pos 52)
  rw [ofFloat, ofBits] at h
  simp only [Nat.pow_eq] at h
  -- The leading bit adds `2 ^ 52` to the 52 bits that are written.
  split at h
  · split at h <;> cases h
  · split at h
    · cases h
      omega
    · cases h
      omega

/-! ## Packing -/

/-- A significand of 53 bits and an exponent in the range of the format are written by `pack` and
read back by `unpack`. -/
theorem unpack_pack_of_normal (hm : 0 < m) (hlow : 2 ^ 52 ≤ m) (hhigh : m < 2 ^ 53)
    (hleast : -1074 ≤ e) (hgreatest : e ≤ 971) :
    unpack Format.binary64 (pack Format.binary64 (.finite s m e hm)) = .finite s m e hm := by
  obtain ⟨biased, hbiased⟩ : ∃ biased : Nat, e + 1075 = biased :=
    Int.eq_ofNat_of_zero_le (by omega)
  have hbias : (Format.binary64.exponentBias : Int) = 1023 := rfl
  have hpacked : pack Format.binary64 (.finite s m e hm) =
      packComponents Format.binary64 s (BitVec.ofNat 11 biased) (BitVec.ofNat 52 m) := by
    have hlog : m.log2 + 1 = Format.binary64.mantissaBits := by
      rw [(Nat.log2_eq_iff (by omega)).2 ⟨hlow, hhigh⟩]
      rfl
    have hexponent : (e + Format.binary64.exponentBias +
        Format.binary64.mantissaBitsWithoutImplicit).toNat = biased := by
      change (e + 1023 + 52).toNat = biased
      omega
    simp only [pack, hexponent, hlog, if_true]
    exact if_neg (by omega)
  -- The written exponent is neither that of infinity nor that of the least numbers.
  have hvalue : (BitVec.ofNat 11 biased).toNat = biased := by
    rw [BitVec.toNat_ofNat, Nat.mod_eq_of_lt (by omega)]
  have hones : BitVec.ofNat 11 biased ≠ -1#11 := fun h => by
    have htoNat : (BitVec.ofNat 11 biased).toNat = 2047 := by rw [h]; rfl
    omega
  have hzeros : BitVec.ofNat 11 biased ≠ 0#11 := fun h => by
    have htoNat : (BitVec.ofNat 11 biased).toNat = 0 := by rw [h]; rfl
    omega
  have hmantissa : (1#1 ++ BitVec.ofNat 52 m).toNat = m := by
    rw [toNat_append_one, BitVec.toNat_ofNat]
    omega
  rw [hpacked, unpack]
  simp only [unpackMantissa_packComponents, unpackExponent_packComponents,
    unpackSign_packComponents, Sign.ofBitVec_toBitVec, hones, hzeros, if_false, hvalue, hmantissa, hbias]
  congr 1
  omega

/-! ## Rounding -/

/-- A significand of 53 bits is not shifted. -/
theorem targetExponent_of_normal (hlow : 2 ^ 52 ≤ m) (hhigh : m < 2 ^ 53) (hleast : -1074 ≤ e) :
    Format.binary64.targetExponent (totalExponent m e) = e := by
  have hlog : m.log2 = 52 := (Nat.log2_eq_iff (by omega)).2 ⟨hlow, hhigh⟩
  simp only [Format.targetExponent, totalExponent, hlog, Format.mantissaBits, Format.minExponent]
  omega

/-- Nothing is rounded if the exponent is the one that the format wants. -/
theorem roundWithAccuracy_of_target (hm : 0 < m)
    (htarget : Format.binary64.targetExponent (totalExponent m e) = e) :
    roundWithAccuracy Format.binary64 s m e .exact = .finite s m e hm := by
  have hshift (mantissa : ExtendedMantissa) : mantissa >>> (0 : Nat) = mantissa := rfl
  simp [roundWithAccuracy, shiftToTargetExponent, shiftToExponent, htarget, hshift,
    ExtendedMantissa.ofMantissaAndAccuracy, ExtendedMantissa.roundedMantissa,
    ExtendedMantissa.accuracy, Accuracy.roundToNearestEven, hm.ne']

/-- An integer of up to 53 bits has 53 of them after zeros have been added. -/
theorem shifted_bounds (hn : n ≠ 0) (hlt : n < 2 ^ 53) :
    2 ^ 52 ≤ n * 2 ^ (52 - n.log2) ∧ n * 2 ^ (52 - n.log2) < 2 ^ 53 := by
  have hlog : n.log2 < 53 := (Nat.log2_lt hn).2 hlt
  have ⟨hlow, hhigh⟩ := (Nat.log2_eq_iff hn).1 rfl
  constructor
  · calc 2 ^ 52 = 2 ^ n.log2 * 2 ^ (52 - n.log2) := by rw [← Nat.pow_add]; congr 1; omega
      _ ≤ n * 2 ^ (52 - n.log2) := Nat.mul_le_mul_right _ hlow
  · calc n * 2 ^ (52 - n.log2) < 2 ^ (n.log2 + 1) * 2 ^ (52 - n.log2) :=
        Nat.mul_lt_mul_of_pos_right hhigh (Nat.two_pow_pos _)
      _ = 2 ^ 53 := by rw [← Nat.pow_add]; congr 1; omega

/-- `round` shifts an integer of up to 53 bits to 53 of them, and rounds nothing. -/
theorem round_of_lt (hlt : n < 2 ^ 53) (hm : 0 < n * 2 ^ (52 - n.log2)) :
    UnpackedFloat.round Format.binary64 .positive n 0 =
      .finite .positive (n * 2 ^ (52 - n.log2)) ((n.log2 : Int) - 52) hm := by
  have hn : n ≠ 0 := fun h => by simp [h] at hm
  have hlog : n.log2 < 53 := (Nat.log2_lt hn).2 hlt
  obtain ⟨hlow, hhigh⟩ := shifted_bounds hn hlt
  have htarget : Format.binary64.targetExponent (totalExponent n 0) = (n.log2 : Int) - 52 := by
    simp only [Format.targetExponent, totalExponent, Format.mantissaBits, Format.minExponent]
    omega
  have hamount : (0 - ((n.log2 : Int) - 52)).toNat = 52 - n.log2 := by omega
  have hexponent : (0 : Int) - ((52 - n.log2 : Nat) : Int) = (n.log2 : Int) - 52 := by omega
  -- The shift is to the left, so all bits are kept.
  simp only [UnpackedFloat.round, htarget, decreaseExponent, hamount, hexponent, Nat.shiftLeft_eq]
  exact roundWithAccuracy_of_target hm (targetExponent_of_normal hlow hhigh (by omega))

end Exact

/-! ## Integers -/

/-- A natural number below `2 ^ 64` is a word. -/
theorem toNat_toUInt64 (h : n < 2 ^ 64) : n.toUInt64.toNat = n := by
  rw [Nat.toUInt64, UInt64.toNat_ofNat', Nat.mod_eq_of_lt h]

/-- `ofNat` of a word is made and read by its parts. -/
theorem ofFloat_ofNat (hn : n < 2 ^ 64) : Exact.ofFloat (ofNat n) =
    Exact.ofUnpacked (unpack Format.binary64 (pack Format.binary64
      (UnpackedFloat.ofNat Format.binary64 n))) := by
  rw [Exact.ofFloat_eq]
  show Exact.ofUnpacked (unpack Format.binary64 (pack Format.binary64
    (UnpackedFloat.ofNat Format.binary64 n.toUInt64.toNat))) = _
  rw [toNat_toUInt64 hn]

/-- `ofNat` of a natural number up to `2 ^ 53` stands for it. -/
theorem isExactInteger_ofNat (hn : n ≤ 2 ^ 53) : IsExactInteger (ofNat n) n := by
  refine ⟨?_, by rwa [Int.natAbs_natCast]⟩
  rcases Nat.eq_zero_or_pos n with rfl | hpos
  -- Zero and `2 ^ 53` have no 53 bits to be shifted to, and are made by themselves.
  · have hzero : Exact.ofFloat (ofNat 0) = .finite false 0 (-1074) := by decide +kernel
    simp [hzero, Exact.value?]
  rcases Nat.lt_or_eq_of_le hn with hlt | rfl
  · obtain ⟨hlow, hhigh⟩ := Exact.shifted_bounds hpos.ne' hlt
    have hlog : n.log2 < 53 := (Nat.log2_lt hpos.ne').2 hlt
    have hm : 0 < n * 2 ^ (52 - n.log2) := by omega
    have hcompare : compare (n : Int) 0 = .gt := Int.compare_eq_gt.2 (by omega)
    have hround : UnpackedFloat.ofNat Format.binary64 n =
        .finite .positive (n * 2 ^ (52 - n.log2)) ((n.log2 : Int) - 52) hm := by
      rw [← Exact.round_of_lt hlt hm, UnpackedFloat.ofNat, UnpackedFloat.ofInt,
        UnpackedFloat.normalize, hcompare]
      rfl
    rw [ofFloat_ofNat (by omega), hround,
      Exact.unpack_pack_of_normal hm hlow hhigh (by omega) (by omega), Exact.ofUnpacked,
      Exact.value?]
    -- The zeros that were added are taken back by the exponent.
    have hexponent : (n.log2 : Int) - 52 = -((52 - n.log2 : Nat) : Int) := by omega
    have hpower : (2 : ℚ) ^ (52 - n.log2) ≠ 0 := pow_ne_zero _ two_ne_zero
    rw [hexponent, zpow_neg, zpow_natCast]
    push_cast
    rw [mul_assoc, mul_inv_cancel₀ hpower, mul_one]
    exact congrArg some (one_mul _)
  · have hlimit : Exact.ofFloat (ofNat (2 ^ 53)) = .finite false (2 ^ 52) 1 := by decide +kernel
    rw [hlimit, Exact.value?, zpow_one]
    push_cast
    exact congrArg some (by norm_num)

/-- An integer from `2 ^ 53` on that a binary64 number stands for is even. -/
theorem even_of_value? {n : Int} (h : (Exact.ofFloat x).value? = some (n : ℚ))
    (hn : 2 ^ 53 ≤ n.natAbs) : Even n := by
  cases hx : Exact.ofFloat x with
  | notANumber => simp [hx, Exact.value?] at h
  | infinity => simp [hx, Exact.value?] at h
  | finite negative m e =>
    have hm := Exact.significand_lt hx
    rw [hx, Exact.value?, Option.some.injEq] at h
    have hsize : (m * 2 ^ e : ℚ) = n.natAbs := by
      rw [Nat.cast_natAbs, Int.cast_abs, ← h, abs_mul, abs_of_nonneg (Exact.size_nonneg m e)]
      cases negative <;> simp
    rcases le_or_gt e 0 with he | he
    · -- Without a shift to the left the significand would be too large.
      have hle : (m * 2 ^ e : ℚ) ≤ m :=
        mul_le_of_le_one_right m.cast_nonneg (zpow_le_one_of_nonpos₀ one_le_two he)
      have hcast : n.natAbs ≤ m := by exact_mod_cast hsize ▸ hle
      omega
    · obtain ⟨k, rfl⟩ := Int.eq_succ_of_zero_lt he
      have hshifted : n.natAbs = m * 2 ^ (k + 1) := by
        rw [← Nat.cast_succ, zpow_natCast] at hsize
        exact_mod_cast hsize.symm
      rw [← Int.natAbs_even, hshifted, Nat.pow_succ]
      exact ⟨m * 2 ^ k, by rw [← mul_assoc, mul_two]⟩

end ScriptCore.Number
