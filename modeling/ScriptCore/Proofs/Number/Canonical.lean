import ScriptCore.Proofs.Number.Order

/-!
# Canonical numbers

A finite binary64 number has a significand of 53 bits, or of less if it has the least exponent.  So
its significand and its exponent can be told from its size, and the machine, which computes with
them, can write them down and read them again.

* `canonical_of_finite`, `sizeBits_of_finite`: the parts of a finite number;
* `Exact.read_finite`: what is written of canonical parts is read as the same number, or as infinity
  if the exponent is too great;
* `ofFloat_ofBits`: any 64 bits make a number that stands for what they say;
* `ofBits_eq_or_eq_zero`: different bits stand for different numbers, but for those of the zeros.
-/

namespace ScriptCore.Number

open Float.Model (Format UnpackedFloat)
open Float.Model.UnpackedFloat

variable {x : Float} {s : Sign} {n : Bool} {m : Nat} {e : Int} {v : ℚ}

/-- A significand of 53 bits, or of less with the least exponent. -/
structure Canonical (m : Nat) (e : Int) : Prop where
  significand_lt : m < 2 ^ 53
  least_le : -1074 ≤ e
  normal : 2 ^ 52 ≤ m ∨ e = -1074

/-! ## The parts of a finite number -/

/-- The parts of a finite number are `Canonical`. -/
theorem canonical_of_finite (h : Exact.ofFloat x = .finite n m e) : Canonical m e := by
  rw [Exact.ofFloat, Exact.ofBits] at h
  simp only [Nat.pow_eq] at h
  split at h
  · split at h <;> cases h
  · split at h <;> cases h <;> constructor <;> omega

/-- The exponent of a finite number is at most 971, the greatest one. -/
theorem exponent_le (h : Exact.ofFloat x = .finite n m e) : e ≤ 971 := by
  rw [Exact.ofFloat, Exact.ofBits] at h
  simp only [Nat.pow_eq] at h
  split at h
  · split at h <;> cases h
  · split at h <;> cases h <;> omega

/-- `sizeBits` of a finite number are its exponent and its significand, written one after the other.
-/
theorem sizeBits_of_finite (h : Exact.ofFloat x = .finite n m e) :
    (sizeBits x : Int) = (e + 1074) * 2 ^ 52 + m := by
  rw [Exact.ofFloat, Exact.ofBits] at h
  simp only [Nat.pow_eq] at h
  rw [sizeBits]
  split at h
  · split at h <;> cases h
  · split at h <;> cases h <;> omega

/-- `isNegative` tells the sign of a finite number. -/
theorem isNegative_of_finite (h : Exact.ofFloat x = .finite n m e) : isNegative x = n := by
  rw [Exact.ofFloat, Exact.ofBits] at h
  rw [isNegative]
  simp only [Nat.pow_eq] at h ⊢
  split at h
  · split at h <;> cases h
  · split at h <;> cases h <;> rfl

/-! ## Writing and reading -/

namespace Exact

/-- What is read of the parts that the machine has written. -/
def read (u : UnpackedFloat) : Exact :=
  ofUnpacked (unpack Format.binary64 (pack Format.binary64 u))

/-- A number that the machine makes stands for what is `read` of it. -/
theorem ofFloat_ofModel (u : UnpackedFloat) : ofFloat (.ofModel (.pack u)) = read u := by
  rw [ofFloat_eq]
  rfl

/-- A zero is read as a significand zero with the least exponent. -/
theorem read_zero (s : Sign) : read (.zero s) = .finite (s == .negative) 0 (-1074) := by
  rw [read, pack, unpack_packedZero, ofUnpacked]

/-- An infinity is read with its sign. -/
theorem read_infinity (s : Sign) : read (.infinity s) = .infinity (s == .negative) := by
  simp [read, pack, packedInfinity, unpack, ofUnpacked]

/-- What is no number is read as such. -/
theorem read_notANumber : read .notANumber = .notANumber := by
  rw [read, pack, unpack_packedNaN, ofUnpacked]

/-- `pack` writes a number of less than 53 bits with the exponent zero, which `unpack` knows. -/
theorem unpack_pack_of_subnormal (hm : 0 < m) (hlt : m < 2 ^ 52) :
    unpack Format.binary64 (pack Format.binary64 (.finite s m (-1074) hm)) =
      .finite s m (-1074) hm := by
  -- The significand has less bits than the format, so it is written as it is.
  have hlog : m.log2 < 52 := (Nat.log2_lt hm.ne').2 hlt
  have hpacked : pack Format.binary64 (.finite s m (-1074) hm) =
      packComponents Format.binary64 s 0#11 (BitVec.ofNat 52 m) := by
    have hbits : m.log2 + 1 ≠ Format.binary64.mantissaBits := by
      show m.log2 + 1 ≠ 1 + 52
      omega
    simp only [pack, if_neg hbits]
    exact if_neg (by decide)
  -- It is read again, and with the exponent zero, since it is not zero itself.
  have hmantissa : (BitVec.ofNat 52 m).toNat = m := by
    rw [BitVec.toNat_ofNat, Nat.mod_eq_of_lt hlt]
  have hzero : BitVec.ofNat 52 m ≠ 0#52 := fun h => by
    have htoNat : (BitVec.ofNat 52 m).toNat = 0 := by rw [h]; rfl
    omega
  have hones : (0#11) ≠ -1#11 := by decide
  rw [hpacked, unpack]
  simp only [unpackMantissa_packComponents, unpackExponent_packComponents,
    unpackSign_packComponents, Sign.ofBitVec_toBitVec, hones, hzero, hmantissa, if_true, if_false,
    dif_neg, not_false_eq_true]
  rfl

/-- `pack` writes an exponent that is too great as infinity. -/
theorem pack_of_exponent_gt (hm : 0 < m) (he : 971 < e) :
    pack Format.binary64 (.finite s m e hm) = packedInfinity Format.binary64 s := by
  have hbias : (Format.binary64.exponentBias : Int) = 1023 := rfl
  rw [pack]
  refine if_pos ?_
  show 2 ^ 11 ≤ (e + Format.binary64.exponentBias + 52).toNat + 1
  omega

/-- What is written of `Canonical` parts is read as the same number, or as infinity. -/
theorem read_finite (hm : 0 < m) (h : Canonical m e) : read (.finite s m e hm) =
    if e ≤ 971 then .finite (s == .negative) m e else .infinity (s == .negative) := by
  split
  next he =>
    rw [read]
    cases h.normal with
    | inl hnormal => rw [unpack_pack_of_normal hm hnormal h.significand_lt h.least_le he, ofUnpacked]
    | inr hleast =>
      subst hleast
      -- The least exponent is also that of the numbers that have 53 bits.
      by_cases hnormal : 2 ^ 52 ≤ m
      · rw [unpack_pack_of_normal hm hnormal h.significand_lt h.least_le he, ofUnpacked]
      · rw [unpack_pack_of_subnormal hm (Nat.lt_of_not_le hnormal), ofUnpacked]
  next he =>
    rw [read, pack_of_exponent_gt hm (Int.lt_of_not_ge he)]
    exact read_infinity s

end Exact

/-! ## Bits -/

/-- The machine knows 64 bits as those of a number, unless they say that it is none. -/
theorem valid_or_notANumber (b : BitVec Format.binary64.numBits) :
    Format.binary64.Valid b ∨ unpack Format.binary64 b = .notANumber := by
  by_cases hexponent : unpackExponent b = -1#_
  · by_cases hmantissa : unpackMantissa b = 0#_
    · exact .inl ⟨fun _ hne => absurd hmantissa hne⟩
    · rw [unpack, if_pos hexponent, if_neg hmantissa]
      exact .inr rfl
  · exact .inl ⟨fun hones => absurd hones hexponent⟩

/-- `Exact.ofBits` takes 64 bits apart as the machine does. -/
theorem ofBits_toNat (bits : UInt64) :
    Exact.ofBits bits.toNat = Exact.ofUnpacked (unpack Format.binary64 bits.toBitVec) :=
  Exact.ofBits_eq bits.toBitVec

/-- A number made by `Float.ofBits` stands for what the bits say. -/
theorem ofFloat_ofBits (bits : UInt64) :
    Exact.ofFloat (.ofBits bits) = Exact.ofBits bits.toNat := by
  have hread : Exact.ofFloat (.ofBits bits) = Exact.read (unpack Format.binary64 bits.toBitVec) :=
    Exact.ofFloat_ofModel _
  rw [hread, ofBits_toNat]
  cases valid_or_notANumber bits.toBitVec with
  | inl hvalid => rw [Exact.read, pack_unpack_of_valid hvalid]
  | inr hnone => rw [hnone, Exact.read_notANumber, Exact.ofUnpacked]

/-- A number keeps the bits that it is made of; what is no number may not. -/
theorem toBits_ofBits {bits : UInt64} (h : (Exact.ofFloat (.ofBits bits)).value? = some v) :
    (Float.ofBits bits).toBits = bits := by
  rw [ofFloat_ofBits, ofBits_toNat] at h
  show UInt64.ofBitVec (pack Format.binary64 (unpack Format.binary64 bits.toBitVec)) = bits
  cases valid_or_notANumber bits.toBitVec with
  | inl hvalid => rw [pack_unpack_of_valid hvalid]
  | inr hnone =>
    rw [hnone] at h
    cases h

/-- A number of 64 bits is zero if at most the bit of the sign is set. -/
theorem value?_ofBits_eq_zero_iff {bits : UInt64} :
    (Exact.ofFloat (.ofBits bits)).value? = some 0 ↔ bits = 0 ∨ bits = 0x8000000000000000 := by
  constructor
  · intro hzero
    have hsize := sizeBits_of_value?_zero hzero
    have hlt := bits.toNat_lt
    -- The size bits are all of the bits but the one of the sign.
    rw [sizeBits, toBits_ofBits hzero] at hsize
    rw [← UInt64.toNat_inj, ← UInt64.toNat_inj]
    show bits.toNat = 0 ∨ bits.toNat = 2 ^ 63
    omega
  · have hvalue (n : Bool) : (Exact.finite n 0 (-1074)).value? = some 0 := by simp [Exact.value?]
    rw [ofFloat_ofBits]
    rintro (rfl | rfl)
    · exact hvalue false
    · exact hvalue true

/-- Bits that stand for the same are equal or those of the two zeros. -/
theorem ofBits_eq_or_eq_zero {bits bits' : UInt64}
    (h : (Exact.ofFloat (.ofBits bits)).value? = some v)
    (h' : (Exact.ofFloat (.ofBits bits')).value? = some v) : bits = bits' ∨ v = 0 := by
  obtain heq | hzero := eq_or_eq_zero_of_value? h h'
  · rw [← toBits_ofBits h, heq, toBits_ofBits h']
    exact .inl rfl
  · exact .inr hzero

end ScriptCore.Number
