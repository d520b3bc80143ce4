import ScriptCore.Proofs.Number.Rounding

/-!
# Sums, differences and quotients

What the machine answers for a sum, a difference or a quotient of finite numbers is rounded from the
exact one.

* `Stands`: what the parts stand for that the machine computes with;
* `rounded_add`, `rounded_sub`, `rounded_div`: sums, differences and quotients are rounded;
* `Rounded.value?_eq`: a result that needs no rounding is exact.
-/

namespace ScriptCore.Number

open Float.Model (Format UnpackedFloat totalExponent)
open Float.Model.UnpackedFloat

variable {x y : Float} {s s' : Sign} {m m' : Nat} {e e' : Int} {a b v : ℚ}

/-! ## Finite numbers -/

/-- The sign of a quotient has the quotient of the factors. -/
theorem factor_div (s s' : Sign) : factor (s / s') = factor s / factor s' := by
  cases s <;> cases s' <;> norm_num [factor] <;> rfl

/-- The factor of a sign, as `Exact.ofUnpacked` tells it. -/
theorem factor_eq (s : Sign) : (if s == .negative then -1 else 1 : ℚ) = factor s := by
  cases s <;> rfl

/-- The parts of a finite number stand for a rational one. -/
inductive Stands : UnpackedFloat → ℚ → Prop where
  | zero (s : Sign) : Stands (.zero s) 0
  | finite (s : Sign) (m : Nat) (e : Int) (hm : 0 < m) :
    Stands (.finite s m e hm) (factor s * (m * 2 ^ e))

/-- The parts that the machine has of a number `Stands` for what the number stands for. -/
theorem stands_unpack (h : (Exact.ofFloat x).value? = some a) : Stands x.toModel.unpack a := by
  rw [Exact.ofFloat_eq] at h
  cases hu : x.toModel.unpack with
  | notANumber => simp [hu, Exact.ofUnpacked, Exact.value?] at h
  | infinity s => simp [hu, Exact.ofUnpacked, Exact.value?] at h
  | zero s =>
    -- A zero stands for zero, whatever its sign.
    rw [hu, Exact.ofUnpacked, Exact.value?, Nat.cast_zero, zero_mul, mul_zero,
      Option.some.injEq] at h
    exact h ▸ .zero s
  | finite s m e hm =>
    rw [hu, Exact.ofUnpacked, Exact.value?, factor_eq, Option.some.injEq] at h
    exact h ▸ .finite s m e hm

/-- A finite number has a canonical significand and exponent, which make its size. -/
theorem exists_parts (h : (Exact.ofFloat x).value? = some a) :
    ∃ (m : Nat) (e : Int), Canonical m e ∧ e ≤ 971 ∧ |a| = m * 2 ^ e := by
  cases hx : Exact.ofFloat x with
  | finite n m e =>
    refine ⟨m, e, canonical_of_finite hx, exponent_le hx, ?_⟩
    rw [hx, Exact.value?, Option.some.injEq] at h
    subst h
    cases n <;> simp [abs_mul]
  | _ => simp [hx, Exact.value?] at h

/-- A finite number needs no rounding. -/
theorem onGrid_of_value? (h : (Exact.ofFloat x).value? = some a) : OnGrid a := by
  obtain ⟨m, e, hcanonical, -, hsize⟩ := exists_parts h
  exact ⟨m, e, hcanonical.significand_lt, hcanonical.least_le, hsize⟩

/-- A finite number is below the `limit`. -/
theorem abs_lt_limit_of_value? (h : (Exact.ofFloat x).value? = some a) : |a| < limit := by
  obtain ⟨m, e, hcanonical, he, hsize⟩ := exists_parts h
  have hm : (m : ℚ) ≤ 2 ^ 53 - 1 := by
    have hle : ((m + 1 : Nat) : ℚ) ≤ (2 ^ 53 : Nat) := Nat.cast_le.2 hcanonical.significand_lt
    push_cast at hle
    linarith
  have hgreatest : (2 : ℚ) ^ (971 : ℤ) = 2 * 2 ^ (970 : ℤ) := zpow_one_add₀ two_ne_zero 970
  calc |a| = m * 2 ^ e := hsize
    _ ≤ (2 ^ 53 - 1) * 2 ^ (971 : ℤ) :=
      mul_le_mul hm (zpow_le_zpow_right₀ one_le_two he) (by positivity) (by norm_num)
    _ < limit := by
      rw [hgreatest, ← mul_assoc, limit]
      exact mul_lt_mul_of_pos_right (by norm_num) (zpow_pos two_pos _)

/-- `Rounded.of_eq`: what stands for the exact number is rounded from it. -/
theorem Rounded.of_eq {r : Exact} (hr : r.value? = some v) (hv : |v| < limit) : Rounded v r :=
  .near hr hv (fun _ _ => id) fun _ _ => id

/-- Nothing is between an exact result and itself, so what is `Rounded` from it is exact. -/
theorem Rounded.value?_eq {r : Exact} (h : Rounded v r) (hgrid : OnGrid v) (hv : |v| < limit) :
    r.value? = some v := by
  cases h with
  | near hr _ below above =>
    rw [hr, le_antisymm (above v hgrid le_rfl) (below v hgrid le_rfl)]
  | far _ hge => exact absurd hv hge.not_gt

/-- A zero of either sign is rounded from zero. -/
theorem rounded_zero (s : Sign) : Rounded 0 (Exact.read (.zero s)) := by
  rw [Exact.read_zero]
  apply Rounded.of_eq
  · simp [Exact.value?]
  · rw [abs_zero]
    exact limit_pos

/-- A number that `pack` writes down is read again. -/
theorem read_unpack (x : Float) : Exact.read x.toModel.unpack = Exact.ofFloat x := by
  rw [Exact.ofFloat_eq, Exact.read, Float.Model.unpack, pack_unpack_of_valid x.toModel.valid]

/-! ## Sums -/

/-- `normalize` writes a number with its sign, with as many bits as the format has. -/
theorem rounded_normalize (n : Int) (e : Int) (s : Sign) : Rounded (n * 2 ^ e)
    (Exact.read (UnpackedFloat.normalize Format.binary64 n e s)) := by
  rw [UnpackedFloat.normalize]
  cases horder : compare n 0 with
  -- The sign decides which of the two significands is rounded.
  | lt =>
    rw [Int.compare_eq_lt] at horder
    have hsize : ((-n).toNat : ℚ) = -n := by exact_mod_cast Int.toNat_of_nonneg (by omega)
    have h := rounded_round (s := .negative) (m := (-n).toNat) (e := e) (by omega)
    rw [hsize] at h
    convert h using 1
    rw [factor]
    ring
  | eq =>
    rw [Int.compare_eq_eq] at horder
    have hzero : (n * 2 ^ e : ℚ) = 0 := by rw [horder, Int.cast_zero, zero_mul]
    rw [hzero]
    exact rounded_zero s
  | gt =>
    rw [Int.compare_eq_gt] at horder
    have hsize : (n.toNat : ℚ) = n := by exact_mod_cast Int.toNat_of_nonneg (by omega)
    have h := rounded_round (s := .positive) (m := n.toNat) (e := e) (by omega)
    rw [hsize] at h
    convert h using 1
    rw [factor, one_mul]

/-- `decreaseExponent` brings significands to one exponent by adding zeros. -/
theorem apply_decreaseExponent (s : Sign) (m : Nat) {e t : Int} (ht : t ≤ e) :
    (s.apply (decreaseExponent m e t).1 : ℚ) * 2 ^ t = factor s * (m * 2 ^ e) := by
  obtain ⟨k, hk⟩ := Int.eq_ofNat_of_zero_le (Int.sub_nonneg.2 ht)
  obtain rfl : e = t + k := by omega
  rw [zpow_add₀ two_ne_zero, zpow_natCast, decreaseExponent, hk, Int.toNat_natCast,
    Nat.shiftLeft_eq]
  cases s <;> simp [Sign.apply, factor] <;> ring

/-- A sum is rounded from the exact one. -/
theorem rounded_add (hx : (Exact.ofFloat x).value? = some a)
    (hy : (Exact.ofFloat y).value? = some b) : Rounded (a + b) (Exact.ofFloat (x + y)) := by
  have hsum : Exact.ofFloat (x + y) =
      Exact.read (UnpackedFloat.add Format.binary64 x.toModel.unpack y.toModel.unpack) :=
    Exact.ofFloat_ofModel _
  have hself {z : Float} {c : ℚ} (hz : (Exact.ofFloat z).value? = some c) :
      Rounded c (Exact.read z.toModel.unpack) := by
    rw [read_unpack]
    exact .of_eq hz (abs_lt_limit_of_value? hz)
  have hx' := hself hx
  have hy' := hself hy
  have hstands := stands_unpack hx
  have hstands' := stands_unpack hy
  rw [hsum]
  generalize x.toModel.unpack = p at hx' hstands
  generalize y.toModel.unpack = q at hy' hstands'
  -- A zero adds nothing, so the other number is the sum; two of them add up to a zero.
  cases hstands with
  | zero s =>
    cases hstands' with
    | zero s' =>
      rw [add_zero, UnpackedFloat.add]
      split <;> exact rounded_zero _
    | finite s' m' e' hm' =>
      rw [zero_add]
      exact hy'
  | finite s m e hm =>
    cases hstands' with
    | zero s' =>
      rw [add_zero]
      exact hx'
    | finite s' m' e' hm' =>
      -- Two finite numbers are brought to the lesser exponent, and their significands are added.
      have h := rounded_normalize (s.apply (decreaseExponent m e (min e e')).1 +
        s'.apply (decreaseExponent m' e' (min e e')).1) (min e e') .positive
      rw [Int.cast_add, add_mul, apply_decreaseExponent s m (min_le_left e e'),
        apply_decreaseExponent s' m' (min_le_right e e')] at h
      exact h

/-! ## Differences -/

/-- `ofUnpacked` makes different numbers of different parts. -/
theorem Exact.ofUnpacked_injective {p q : UnpackedFloat} (h : ofUnpacked p = ofUnpacked q) :
    p = q := by
  have hsign {s s' : Sign} (h : (s == .negative) = (s' == .negative)) : s = s' := by
    cases s <;> cases s' <;> first | rfl | cases h
  cases p <;> cases q <;> simp only [ofUnpacked, reduceCtorEq, infinity.injEq, finite.injEq] at h
  case notANumber.notANumber => rfl
  case infinity.infinity => rw [hsign h]
  case zero.zero => rw [hsign h.1]
  -- A number with a significand is not zero.
  case zero.finite => omega
  case finite.zero => omega
  case finite.finite =>
    obtain ⟨hs, rfl, rfl⟩ := h
    rw [hsign hs]

/-- `ofUnpacked` of the parts with the other sign is the number with the other sign. -/
theorem Exact.ofUnpacked_neg (p : UnpackedFloat) : ofUnpacked p.neg = (ofUnpacked p).neg := by
  have hsign (s : Sign) : (-s == .negative) = !(s == .negative) := by cases s <;> rfl
  cases p <;> simp only [UnpackedFloat.neg, ofUnpacked, neg, hsign]

/-- A changed sign is written down by `pack` and read again. -/
theorem unpack_neg (x : Float) : (-x).toModel.unpack = x.toModel.unpack.neg := by
  apply Exact.ofUnpacked_injective
  rw [← Exact.ofFloat_eq, ofFloat_neg, Exact.ofUnpacked_neg, Exact.ofFloat_eq]

/-- A difference is a sum with the other sign, also for what is not finite. -/
theorem sub_eq (x y : Float) : x - y = x + -y := by
  have happly (s : Sign) (i : Int) : (-s).apply i = -s.apply i := by
    cases s
    · exact (Int.neg_neg i).symm
    · rfl
  -- Sums and differences tell the same cases apart, with the sign of the second number turned.
  have hparts (p q : UnpackedFloat) :
      UnpackedFloat.sub Format.binary64 p q = UnpackedFloat.add Format.binary64 p q.neg := by
    cases p <;> cases q <;> simp only [UnpackedFloat.sub, UnpackedFloat.add, UnpackedFloat.neg,
      Int.sub_eq_add_neg, happly]
  show Float.ofModel (.pack (UnpackedFloat.sub Format.binary64 x.toModel.unpack y.toModel.unpack)) =
    Float.ofModel (.pack (UnpackedFloat.add Format.binary64 x.toModel.unpack (-y).toModel.unpack))
  rw [hparts, unpack_neg]

/-- A difference is rounded from the exact one. -/
theorem rounded_sub (hx : (Exact.ofFloat x).value? = some a)
    (hy : (Exact.ofFloat y).value? = some b) : Rounded (a - b) (Exact.ofFloat (x - y)) := by
  rw [sub_eq, sub_eq_add_neg]
  exact rounded_add hx (value?_neg hy)

/-! ## Quotients -/

/-- A quotient is computed by `UnpackedFloat.div` from the parts. -/
theorem ofFloat_div (x y : Float) : Exact.ofFloat (x / y) =
    Exact.read (UnpackedFloat.div Format.binary64 x.toModel.unpack y.toModel.unpack) :=
  Exact.ofFloat_ofModel _

/-- A quotient has as many bits as the dividend has more than the divisor, or one more. -/
theorem log2_le_log2_div (hm : 0 < m) (hm' : 0 < m') :
    m.log2 ≤ (m / m').log2 + m'.log2 + 1 := by
  have hlt : m < 2 ^ ((m / m').log2 + 1 + (m'.log2 + 1)) := by
    calc m < m' * (m / m' + 1) := Nat.lt_mul_div_succ m hm'
      _ ≤ 2 ^ (m'.log2 + 1) * 2 ^ ((m / m').log2 + 1) :=
        Nat.mul_le_mul Nat.lt_log2_self.le Nat.lt_log2_self
      _ = 2 ^ ((m / m').log2 + 1 + (m'.log2 + 1)) := by rw [Nat.mul_comm, ← Nat.pow_add]
  have hlog := (Nat.log2_lt hm.ne').2 hlt
  omega

/-- `divCore` shifts the dividend so far that the quotient has as many bits as the format has. -/
theorem rounded_divCore (hm : 0 < m) (hm' : 0 < m') (e e' : Int) (s : Sign) :
    let (m'', e'', accuracy) := divCore Format.binary64 m e m' e'
    Rounded (factor s * ((m * 2 ^ e) / (m' * 2 ^ e')))
      (Exact.read (roundWithAccuracy Format.binary64 s m'' e'' accuracy)) := by
  have htarget (t : Int) : Format.binary64.targetExponent t = max (t - 53) (-1074) := rfl
  simp only [divCore, htarget, Nat.shiftLeft_eq, totalExponent]
  generalize ht : min (e - e') (max ((m.log2 : Int) + 1 + e - (m'.log2 + 1 + e') - 53) (-1074)) = t
  obtain ⟨k, hk⟩ := Int.eq_ofNat_of_zero_le (Int.sub_nonneg.2 (ht ▸ min_le_left _ _ : t ≤ e - e'))
  rw [hk, Int.toNat_natCast]
  apply rounded_roundWithAccuracy
  -- The quotient of the shifted significand is the one that is sought, in units of the last place.
  · have hquotient : ((m * 2 ^ e) / (m' * 2 ^ e') / 2 ^ t : ℚ) = (m * 2 ^ k : Nat) / m' := by
      obtain rfl : e = t + k + e' := by omega
      rw [zpow_add₀ two_ne_zero, zpow_add₀ two_ne_zero, zpow_natCast]
      push_cast
      field_simp
    rw [hquotient]
    exact .fraction hm'
  -- There are enough bits, so what is lost is below the last place.
  · rw [htarget, totalExponent]
    have hlog := log2_le_log2_div (Nat.mul_pos hm (Nat.two_pow_pos k)) hm'
    rw [log2_mul_two_pow hm.ne'] at hlog
    omega

/-- A quotient is rounded from the exact one. -/
theorem rounded_div (hx : (Exact.ofFloat x).value? = some a)
    (hy : (Exact.ofFloat y).value? = some b) (hb : b ≠ 0) :
    Rounded (a / b) (Exact.ofFloat (x / y)) := by
  have hstands := stands_unpack hx
  have hstands' := stands_unpack hy
  rw [ofFloat_div]
  generalize x.toModel.unpack = p at hstands
  generalize y.toModel.unpack = q at hstands'
  cases hstands' with
  | zero s' => exact absurd rfl hb
  | finite s' m' e' hm' =>
    cases hstands with
    | zero s =>
      rw [zero_div]
      exact rounded_zero (s / s')
    | finite s m e hm =>
      -- The sign is that of the quotient of both factors.
      have h := rounded_divCore hm hm' e e' (s / s')
      have hsigns : factor s * (m * 2 ^ e) / (factor s' * (m' * 2 ^ e')) =
          factor (s / s') * ((m * 2 ^ e) / (m' * 2 ^ e')) := by
        rw [factor_div, mul_div_mul_comm]
      rw [hsigns]
      exact h

/-- Infinity divided by a number above zero is infinity. -/
theorem ofFloat_infinity_div {n : Bool} (hx : Exact.ofFloat x = .infinity n)
    (hy : (Exact.ofFloat y).value? = some b) (hb : 0 < b) :
    Exact.ofFloat (x / y) = .infinity n := by
  have hstands := stands_unpack hy
  rw [Exact.ofFloat_eq] at hx
  rw [ofFloat_div]
  generalize x.toModel.unpack = p at hx
  generalize y.toModel.unpack = q at hstands
  cases p with
  | infinity s =>
    cases hstands with
    | zero s' => exact absurd hb (lt_irrefl 0)
    | finite s' m' e' hm' =>
      -- A divisor above zero has no sign, so that of the infinity stays.
      cases s' with
      | negative =>
        have hsize := Exact.size_nonneg m' e'
        rw [factor] at hb
        linarith
      | positive =>
        show Exact.read (.infinity (s / .positive)) = _
        rw [Exact.read_infinity, ← hx]
        cases s <;> rfl
  | _ => cases hx

end ScriptCore.Number
