import ScriptCore.Number.Statistics
import ScriptCore.Proofs.Number.Integer

/-!
# The total order of numbers

The 64 bits of a number are one of sign and 63 of size, and all patterns of bits are totally ordered.
First comes what is no number and has the sign, with the greater fractions before the lesser; then
negative infinity, the finite numbers, the negative zero before the positive one, and infinity; and
last what is no number and has no sign, with the lesser fractions first.

The order is read off the bits.  The size counts up with the size of the number, in steps of the least
number from zero on and in greater and greater steps from the first number with a leading bit on.
Above the size of infinity is what is no number, by its fraction.

* `TotalLe`: the order, told by what bits stand for;
* `units`, `strictMono_units`: what a finite number stands for grows with its size;
* `toInt_orderKey`: turning all bits but the sign places the numbers below zero backwards;
* `totalLe_iff`: the place that `orderKey` gives is the one in the order;
* `orderKey_injective`: no two patterns have the same place;
* `eq_or_eq_zero_of_value?`: only the zeros stand for the same.
-/

namespace ScriptCore.Number

open Float.Model (Format UnpackedFloat)

variable {a b c : UInt64} {x y : Float} {r r' : Nat} {n n' : Bool} {v : ℚ}

/-! ## Bits -/

/-- Whether the bit of the sign is set. -/
def signBit (a : UInt64) : Bool := decide (2 ^ 63 ≤ a.toNat)

/-- The bits without that of the sign. -/
def size (a : UInt64) : Nat := a.toNat % 2 ^ 63

/-- The bits of the fraction, which tell apart what is no number. -/
def payload (a : UInt64) : Nat := a.toNat % 2 ^ 52

/-- The bits of infinity. -/
def infinityBits : Nat := 2047 * 2 ^ 52

/-- `signBit` and `size` make up all bits. -/
theorem eq_of_signBit_of_size (hsign : signBit a = signBit b) (hsize : size a = size b) : a = b := by
  have ha := a.toNat_lt
  have hb := b.toNat_lt
  rw [signBit, signBit, decide_eq_decide] at hsign
  rw [size, size] at hsize
  rw [← UInt64.toNat_inj]
  omega

/-- The bits of a number without that of the sign. -/
def sizeBits (x : Float) : Nat := x.toBits.toNat % 2 ^ 63

/-! ## The order -/

/-- Bits stand for no number, and have a sign or not. -/
def IsNone (negative : Bool) (a : UInt64) : Prop :=
  Exact.ofBits a.toNat = .notANumber ∧ signBit a = negative

/-- The bits of a number are not after those of another one in the total order. -/
inductive TotalLe (a b : UInt64) : Prop where
  /-- What is no number and has the sign comes first. -/
  | noneBelow (ha : IsNone true a) (hb : ¬IsNone true b)
  /-- What is no number and has no sign comes last. -/
  | noneAbove (ha : ¬IsNone false a) (hb : IsNone false b)
  /-- Greater fractions are farther out, on either side. -/
  | payload {negative : Bool} (ha : IsNone negative a) (hb : IsNone negative b)
    (h : if negative then payload b ≤ payload a else payload a ≤ payload b)
  /-- Negative infinity is the first of the numbers. -/
  | lowest (ha : Exact.ofBits a.toNat = .infinity true) (hb : ¬IsNone true b)
  /-- Infinity is the last of the numbers. -/
  | highest (ha : ¬IsNone false a) (hb : Exact.ofBits b.toNat = .infinity false)
  /-- In between, numbers are ordered by what they stand for. -/
  | less {v w : ℚ} (ha : (Exact.ofBits a.toNat).value? = some v)
    (hb : (Exact.ofBits b.toNat).value? = some w) (h : v < w)
  /-- The sign decides between numbers that stand for the same. -/
  | same {v : ℚ} (ha : (Exact.ofBits a.toNat).value? = some v)
    (hb : (Exact.ofBits b.toNat).value? = some v) (h : signBit a = true ∨ signBit b = false)

/-! ## Sizes -/

/-- The size of a finite number by its bits, as a multiple of the least number above zero. -/
def units (r : Nat) : Nat :=
  if r / 2 ^ 52 = 0 then r % 2 ^ 52 else (2 ^ 52 + r % 2 ^ 52) * 2 ^ (r / 2 ^ 52 - 1)

/-- `units` are more for the next size. -/
theorem units_lt_succ (r : Nat) : units r < units (r + 1) := by
  -- The fraction is one greater, or it starts again with the next exponent.
  by_cases hcarry : r % 2 ^ 52 + 1 < 2 ^ 52
  · have hexponent : (r + 1) / 2 ^ 52 = r / 2 ^ 52 := by omega
    have hfraction : (r + 1) % 2 ^ 52 = r % 2 ^ 52 + 1 := by omega
    rw [units, units, hexponent, hfraction]
    split
    · exact Nat.lt_succ_self _
    · exact Nat.mul_lt_mul_of_pos_right (Nat.lt_succ_self _) (Nat.two_pow_pos _)
  · have hexponent : (r + 1) / 2 ^ 52 = r / 2 ^ 52 + 1 := by omega
    have hfraction : (r + 1) % 2 ^ 52 = 0 := by omega
    have hlt : r % 2 ^ 52 < 2 ^ 52 := Nat.mod_lt _ (Nat.two_pow_pos 52)
    rw [units, units, hexponent, hfraction, if_neg (Nat.succ_ne_zero _), Nat.add_zero,
      Nat.add_sub_cancel]
    -- The carry goes into the exponent: from zero on it adds the leading bit, and later it doubles.
    cases r / 2 ^ 52 with
    | zero => simpa using hlt
    | succ k =>
      calc (if k + 1 = 0 then r % 2 ^ 52 else (2 ^ 52 + r % 2 ^ 52) * 2 ^ (k + 1 - 1))
          = (2 ^ 52 + r % 2 ^ 52) * 2 ^ k := if_neg (Nat.succ_ne_zero k)
        _ < (2 ^ 52 * 2) * 2 ^ k := Nat.mul_lt_mul_of_pos_right (by omega) (Nat.two_pow_pos k)
        _ = 2 ^ 52 * 2 ^ (k + 1) := by rw [Nat.mul_assoc, ← Nat.pow_succ']

/-- `units` grow with the size. -/
theorem strictMono_units : StrictMono units := strictMono_nat_of_lt_succ units_lt_succ

/-- What a finite number stands for, by its sign and the other bits. -/
def valueOf (negative : Bool) (r : Nat) : ℚ :=
  (if negative then -1 else 1) * (units r * 2 ^ (-1074 : ℤ))

/-- `valueOf` without a sign is the multiple of the least number. -/
theorem valueOf_false (r : Nat) : valueOf false r = units r * 2 ^ (-1074 : ℤ) := one_mul _

/-- `valueOf` with the sign is the opposite number. -/
theorem valueOf_true (r : Nat) : valueOf true r = -valueOf false r := by simp [valueOf]

/-- `valueOf` without a sign is not below zero. -/
theorem valueOf_nonneg (r : Nat) : 0 ≤ valueOf false r := by
  rw [valueOf_false]
  positivity

/-- `valueOf` of a number above zero grows with its bits. -/
theorem valueOf_le_iff : valueOf false r ≤ valueOf false r' ↔ r ≤ r' := by
  have hunit : (0 : ℚ) < 2 ^ (-1074 : ℤ) := zpow_pos two_pos _
  rw [valueOf_false, valueOf_false, mul_le_mul_iff_of_pos_right hunit, Nat.cast_le,
    strictMono_units.le_iff_le]

/-- `Exact.ofBits` finds no number above the size of infinity. -/
theorem ofBits_eq_notANumber_iff :
    Exact.ofBits a.toNat = .notANumber ↔ infinityBits < size a := by
  rw [Exact.ofBits, infinityBits, size]
  simp only [Nat.pow_eq]
  split
  · split
    · exact iff_of_false (by simp) (by omega)
    · exact iff_of_true rfl (by omega)
  · split <;> exact iff_of_false (by simp) (by omega)

/-- `Exact.ofBits` finds infinity at its size, with the sign of the bits. -/
theorem ofBits_eq_infinity_iff : Exact.ofBits a.toNat = .infinity n ↔
    size a = infinityBits ∧ signBit a = n := by
  rw [Exact.ofBits, infinityBits, size, signBit]
  simp only [Nat.pow_eq]
  split
  · split
    · rw [Exact.infinity.injEq]
      exact (and_iff_right (by omega)).symm
    · exact iff_of_false (by simp) (by omega)
  · split <;> exact iff_of_false (by simp) (by omega)

/-- `Exact.ofBits` finds the finite numbers below the size of infinity; they stand for their units
with their sign. -/
theorem value?_ofBits_iff : (Exact.ofBits a.toNat).value? = some v ↔
    size a < infinityBits ∧ valueOf (signBit a) (size a) = v := by
  rw [Exact.ofBits, infinityBits, valueOf, units, size, signBit]
  generalize a.toNat = b
  have hexponent : b % 2 ^ 63 / 2 ^ 52 = b / 2 ^ 52 % 2 ^ 11 := by omega
  have hfraction : b % 2 ^ 63 % 2 ^ 52 = b % 2 ^ 52 := by omega
  rw [hexponent, hfraction]
  simp only [Nat.pow_eq]
  -- The exponent tells the infinite ones, the numbers without a leading bit, and the others.
  split
  · split <;> exact iff_of_false (by simp [Exact.value?]) (by omega)
  · split
    · rw [Exact.value?, Option.some.injEq]
      exact (and_iff_right (by omega)).symm
    · -- The exponent counts the doublings of the least number from 1 on.
      rename_i hleading
      obtain ⟨k, hk⟩ := Nat.exists_eq_succ_of_ne_zero hleading
      have hpower : ((2 : ℚ) ^ ((k + 1 : Nat) - 1075 : ℤ)) = 2 ^ k * 2 ^ (-1074 : ℤ) := by
        rw [← zpow_natCast, ← zpow_add₀ two_ne_zero]
        congr 1
        omega
      rw [Exact.value?, Option.some.injEq, hk, hpower, Nat.succ_sub_one, Nat.cast_mul,
        Nat.cast_pow, Nat.cast_ofNat, mul_assoc ((2 ^ 52 + b % 2 ^ 52 : Nat) : ℚ)]
      exact (and_iff_right (by omega)).symm

/-- `IsNone` can be told from the size and the sign. -/
theorem isNone_iff : IsNone n a ↔ infinityBits < size a ∧ signBit a = n := by
  rw [IsNone, ofBits_eq_notANumber_iff]

/-- `size` counts up with the fraction above that of infinity. -/
theorem size_eq_of_lt (h : infinityBits < size a) : size a = infinityBits + payload a := by
  rw [infinityBits, size] at *
  rw [payload]
  omega

/-! ### Numbers -/

/-- What is no number has more size bits than infinity. -/
theorem ofFloat_eq_notANumber_iff : Exact.ofFloat x = .notANumber ↔ infinityBits < sizeBits x :=
  ofBits_eq_notANumber_iff

/-- `isNaN` finds what is no number. -/
theorem isNaN_iff : x.isNaN = true ↔ Exact.ofFloat x = .notANumber := by
  rw [Exact.ofFloat_eq]
  show x.toModel.unpack.isNaN = true ↔ _
  cases x.toModel.unpack <;> simp [Exact.ofUnpacked, UnpackedFloat.isNaN]

/-- Infinity is told by its size bits, and its sign by `isNegative`. -/
theorem ofFloat_eq_infinity_iff : Exact.ofFloat x = .infinity n ↔
    sizeBits x = infinityBits ∧ isNegative x = n :=
  ofBits_eq_infinity_iff

/-- A finite number stands for what its sign and its size bits say. -/
theorem value?_ofFloat_iff : (Exact.ofFloat x).value? = some v ↔
    sizeBits x < infinityBits ∧ valueOf (isNegative x) (sizeBits x) = v :=
  value?_ofBits_iff

/-! ## Places -/

/-- Numbers below zero are placed backwards, the negative zero at -1. -/
def place (negative : Bool) (r : Nat) : Int := if negative then -1 - r else r

/-- `place` of a number without a sign is its size. -/
theorem place_false (r : Nat) : place false r = r := rfl

/-- `place` of a number with a sign counts down from -1. -/
theorem place_true (r : Nat) : place true r = -1 - r := rfl

/-- The mask of `orderKey`: all bits but the one of the sign, if that is set. -/
theorem sshiftRight_ushiftRight_eq (b : BitVec 64) : b.sshiftRight 63 >>> 1 =
    if b.msb then BitVec.cons false (BitVec.allOnes 63) else 0 := by
  split
  -- With the sign set, the shift fills all bits with ones, of which the first is taken back.
  next h =>
    have hnot : ~~~b >>> 63 = 0 := by
      apply BitVec.eq_of_toNat_eq
      have hge := BitVec.le_toNat_of_msb_true h
      rw [BitVec.toNat_ushiftRight, BitVec.toNat_not, Nat.shiftRight_eq_div_pow]
      exact Nat.div_eq_of_lt (by omega)
    rw [BitVec.sshiftRight_eq_of_msb_true h, hnot]
    decide
  -- Without it, no ones are shifted in.
  next h =>
    rw [Bool.not_eq_true] at h
    have hlt := BitVec.toNat_lt_of_msb_false h
    have hzero : b >>> 63 = 0 := by
      apply BitVec.eq_of_toNat_eq
      rw [BitVec.toNat_ushiftRight, Nat.shiftRight_eq_div_pow]
      exact Nat.div_eq_of_lt hlt
    rw [BitVec.sshiftRight_eq_of_msb_false h, hzero]
    decide

/-- With all bits but the sign turned below zero, a word is the place of its sign and its size. -/
theorem toInt_cons_xor (n : Bool) (r : BitVec 63) :
    (BitVec.cons n r ^^^ ((BitVec.cons n r).sshiftRight 63 >>> 1)).toInt = place n r.toNat := by
  have hlt := r.isLt
  rw [sshiftRight_ushiftRight_eq, BitVec.msb_cons, place]
  cases n with
  | false =>
    rw [if_neg Bool.false_ne_true, if_neg Bool.false_ne_true]
    show (BitVec.cons false r ^^^ 0#64).toInt = _
    rw [BitVec.xor_zero, BitVec.toInt_eq_msb_cond, BitVec.msb_cons, BitVec.toNat_cons']
    simp
  | true =>
    rw [if_pos rfl, if_pos rfl, BitVec.cons_xor_cons, BitVec.xor_allOnes,
      BitVec.toInt_eq_msb_cond, BitVec.msb_cons, BitVec.toNat_cons', BitVec.toNat_not]
    simp
    omega

/-- `orderKey` of a pattern is the place of its sign and its size. -/
theorem toInt_orderKey (a : UInt64) : (orderKey a).toInt = place (signBit a) (size a) := by
  have hkey : (orderKey a).toBitVec = a.toBitVec ^^^ (a.toBitVec.sshiftRight 63 >>> 1) := rfl
  have hsign : a.toBitVec.msb = signBit a := BitVec.msb_eq_decide a.toBitVec
  have hsize : (a.toBitVec.setWidth 63).toNat = size a := BitVec.toNat_setWidth 63 _
  rw [← Int64.toInt_toBitVec, hkey, ← hsign, ← hsize, ← toInt_cons_xor, BitVec.cons_msb_setWidth]

/-- `place` puts finite numbers in the order of what they stand for; the sign counts if that is the
same. -/
theorem place_le_place_iff : place n r ≤ place n' r' ↔
    valueOf n r < valueOf n' r' ∨ valueOf n r = valueOf n' r' ∧ (n = true ∨ n' = false) := by
  have hless (a b : Nat) : ¬valueOf false a < -valueOf false b := by
    have ha := valueOf_nonneg a
    have hb := valueOf_nonneg b
    linarith
  unfold place
  -- Below zero the order of the sizes is turned around; between two signs it makes no difference.
  cases n <;> cases n' <;>
    simp only [Bool.false_eq_true, Bool.true_eq_false, if_false, if_true, valueOf_true, neg_inj,
      neg_lt_neg_iff, or_self, or_true, true_or, and_true, and_false, hless]
  · rw [← le_iff_lt_or_eq, valueOf_le_iff]
    omega
  · exact iff_of_false (by omega) not_false
  · rw [← le_iff_lt_or_eq, neg_le_iff_add_nonneg]
    exact iff_of_true (by omega) (add_nonneg (valueOf_nonneg r') (valueOf_nonneg r))
  · rw [eq_comm, ← le_iff_lt_or_eq, valueOf_le_iff]
    omega

/-! ## The order by places -/

/-- `place` goes by fractions above the size of infinity, and below zero backwards. -/
theorem place_le_place_iff_payload (ha : IsNone n a) (hb : IsNone n b) :
    place (signBit a) (size a) ≤ place (signBit b) (size b) ↔
      if n then payload b ≤ payload a else payload a ≤ payload b := by
  obtain ⟨hsize, hsign⟩ := isNone_iff.1 ha
  obtain ⟨hsize', hsign'⟩ := isNone_iff.1 hb
  rw [hsign, hsign', size_eq_of_lt hsize, size_eq_of_lt hsize']
  cases n
  case false =>
    rw [if_neg Bool.false_ne_true, place_false, place_false]
    omega
  case true =>
    rw [if_pos rfl, place_true, place_true]
    omega

/-- Each rule of `TotalLe` puts the places in order. -/
theorem TotalLe.place_le (h : TotalLe a b) :
    place (signBit a) (size a) ≤ place (signBit b) (size b) := by
  cases h with
  | less ha hb h =>
    obtain ⟨-, rfl⟩ := value?_ofBits_iff.1 ha
    obtain ⟨-, rfl⟩ := value?_ofBits_iff.1 hb
    exact place_le_place_iff.2 (.inl h)
  | same ha hb h =>
    obtain ⟨-, rfl⟩ := value?_ofBits_iff.1 ha
    obtain ⟨-, heq⟩ := value?_ofBits_iff.1 hb
    exact place_le_place_iff.2 (.inr ⟨heq.symm, h⟩)
  | payload ha hb h => exact (place_le_place_iff_payload ha hb).2 h
  -- The other rules are about the outermost patterns, so signs and sizes decide.
  | noneBelow ha hb | noneAbove ha hb | lowest ha hb | highest ha hb =>
    simp only [isNone_iff, ofBits_eq_infinity_iff] at ha hb
    cases hn : signBit a <;> cases hn' : signBit b <;>
      simp only [hn, hn', place_false, place_true, and_true, and_false, reduceCtorEq] at ha hb ⊢ <;>
      omega

/-- `TotalLe` is the order of the places. -/
theorem totalLe_iff_place :
    TotalLe a b ↔ place (signBit a) (size a) ≤ place (signBit b) (size b) := by
  refine ⟨TotalLe.place_le, fun h => ?_⟩
  -- From the ends inwards: what is no number, the infinities, and then finite numbers.
  by_cases hb : IsNone false b
  · by_cases ha : IsNone false a
    · exact .payload ha hb ((place_le_place_iff_payload ha hb).1 h)
    · exact .noneAbove ha hb
  by_cases ha : IsNone true a
  · by_cases hb' : IsNone true b
    · exact .payload ha hb' ((place_le_place_iff_payload ha hb').1 h)
    · exact .noneBelow ha hb'
  have hnumbers : size a ≤ infinityBits ∧ size b ≤ infinityBits := by
    rw [isNone_iff] at ha hb
    cases hn : signBit a <;> cases hn' : signBit b <;>
      simp only [hn, hn', place_false, place_true, and_true, and_false, reduceCtorEq] at ha hb h <;>
      omega
  have hnone (n : Bool) : ¬IsNone n a ∧ ¬IsNone n b := by
    rw [isNone_iff, isNone_iff]
    omega
  by_cases hlow : size a = infinityBits ∧ signBit a = true
  · exact .lowest (ofBits_eq_infinity_iff.2 hlow) (hnone true).2
  by_cases hhigh : size b = infinityBits ∧ signBit b = false
  · exact .highest (hnone false).1 (ofBits_eq_infinity_iff.2 hhigh)
  -- Neither pattern is at one of the ends, so both stand for rational numbers.
  have hfinite : size a < infinityBits ∧ size b < infinityBits := by
    cases hn : signBit a <;> cases hn' : signBit b <;>
      simp only [hn, hn', place_false, place_true, and_true, and_false, reduceCtorEq]
        at hlow hhigh h <;>
      omega
  have hvalue := value?_ofBits_iff.2 ⟨hfinite.1, rfl⟩
  rcases place_le_place_iff.1 h with hlt | ⟨heq, hsign⟩
  · exact .less hvalue (value?_ofBits_iff.2 ⟨hfinite.2, rfl⟩) hlt
  · exact .same hvalue (value?_ofBits_iff.2 ⟨hfinite.2, heq.symm⟩) hsign

/-- `TotalLe` is the order of the keys, so `orderKey` compares as the total order does. -/
theorem totalLe_iff : TotalLe a b ↔ orderKey a ≤ orderKey b := by
  rw [totalLe_iff_place, Int64.le_iff_toInt_le, toInt_orderKey, toInt_orderKey]

instance (a b : UInt64) : Decidable (TotalLe a b) := decidable_of_iff _ totalLe_iff.symm

/-- `TotalLe` holds between a pattern and itself. -/
theorem TotalLe.refl (a : UInt64) : TotalLe a a := totalLe_iff_place.2 le_rfl

/-- `TotalLe` goes on from pattern to pattern. -/
theorem TotalLe.trans (h : TotalLe a b) (h' : TotalLe b c) : TotalLe a c :=
  totalLe_iff_place.2 (le_trans (totalLe_iff_place.1 h) (totalLe_iff_place.1 h'))

/-- `TotalLe` holds one way or the other between any two patterns. -/
theorem totalLe_total (a b : UInt64) : TotalLe a b ∨ TotalLe b a := by
  rw [totalLe_iff_place, totalLe_iff_place]
  exact le_total _ _

/-- `orderKey` has no two patterns at the same place. -/
theorem orderKey_injective (h : orderKey a = orderKey b) : a = b := by
  have hplace := congrArg Int64.toInt h
  rw [toInt_orderKey, toInt_orderKey] at hplace
  -- The places from zero on are those without the sign.
  cases hn : signBit a <;> cases hn' : signBit b <;> rw [hn, hn'] at hplace <;>
    simp only [place, if_true, Bool.false_eq_true, if_false] at hplace
  case false.false => exact eq_of_signBit_of_size (hn.trans hn'.symm) (by omega)
  case true.true => exact eq_of_signBit_of_size (hn.trans hn'.symm) (by omega)
  all_goals omega

/-- `TotalLe` both ways makes two patterns one. -/
theorem TotalLe.antisymm (h : TotalLe a b) (h' : TotalLe b a) : a = b := by
  rw [totalLe_iff] at h h'
  exact orderKey_injective (Int64.le_antisymm h h')

/-! ## Numbers that stand for the same -/

/-- Different numbers stand for different rational ones, but for the two zeros. -/
theorem eq_or_eq_zero_of_value? (hx : (Exact.ofFloat x).value? = some v)
    (hy : (Exact.ofFloat y).value? = some v) : x = y ∨ v = 0 := by
  have hxsign := (value?_ofFloat_iff.1 hx).2
  have hysign := (value?_ofFloat_iff.1 hy).2
  have hxsize := valueOf_nonneg (sizeBits x)
  have hysize := valueOf_nonneg (sizeBits y)
  cases hn : isNegative x <;> cases hn' : isNegative y <;> rw [hn] at hxsign <;> rw [hn'] at hysign
  case false.false =>
    have hbits : TotalLe x.toBits y.toBits := .same hx hy (.inr hn')
    exact .inl (Float.toBits_inj.1 (hbits.antisymm (.same hy hx (.inr hn))))
  case true.true =>
    have hbits : TotalLe x.toBits y.toBits := .same hx hy (.inl hn)
    exact .inl (Float.toBits_inj.1 (hbits.antisymm (.same hy hx (.inl hn'))))
  -- With both signs the number is neither above zero nor below.
  case false.true =>
    rw [valueOf_true] at hysign
    exact .inr (by linarith)
  case true.false =>
    rw [valueOf_true] at hxsign
    exact .inr (by linarith)

/-- A zero has no bits but that of the sign. -/
theorem sizeBits_of_value?_zero (h : (Exact.ofFloat x).value? = some 0) : sizeBits x = 0 := by
  have hvalue := (value?_ofFloat_iff.1 h).2
  have hzero : valueOf false 0 = 0 := by simp [valueOf, units]
  have hle : valueOf false (sizeBits x) ≤ valueOf false 0 := by
    cases hn : isNegative x <;> rw [hn] at hvalue
    case false => linarith
    case true =>
      rw [valueOf_true] at hvalue
      linarith
  exact Nat.le_zero.1 (valueOf_le_iff.1 hle)

end ScriptCore.Number
