import ScriptCore.Number.Function
import ScriptCore.Proofs.Number.Integer

/-!
# The greatest common divisor by division with remainder

The common divisors of two numbers are those of the second one and the remainder, and the remainder
is smaller.  So the rounds come to an end, and what is left then is the greatest common divisor.

* `commonDivisor_eq_gcd`: what the rounds end with;
* `rounds_of_lt`: on words of 64 bits the rounds are the same;
* `isGreatestDivisor`: which divisor of two integers it is.
-/

namespace ScriptCore.Number

variable {a b : Nat}

/-- The rounds of `commonDivisor` end with the greatest common divisor. -/
theorem commonDivisor_eq_gcd (a b : Nat) : commonDivisor a b = Nat.gcd a b := by
  -- Induction on the rounds; each of them keeps the common divisors.
  fun_induction commonDivisor a b with
  | case1 a => rw [Nat.gcd_zero_right]
  | case2 a b hb ih => rw [ih, Nat.gcd_comm b, ← Nat.gcd_rec, Nat.gcd_comm]

/-- `commonDivisor` does not depend on which number comes first. -/
theorem commonDivisor_comm (a b : Nat) : commonDivisor a b = commonDivisor b a := by
  rw [commonDivisor_eq_gcd, commonDivisor_eq_gcd, Nat.gcd_comm]

/-- `commonDivisor` of several numbers can be taken in any grouping. -/
theorem commonDivisor_assoc (a b c : Nat) :
    commonDivisor (commonDivisor a b) c = commonDivisor a (commonDivisor b c) := by
  simp only [commonDivisor_eq_gcd, Nat.gcd_assoc]

/-- `commonDivisor` of two numbers is not greater than both. -/
theorem commonDivisor_le {limit : Nat} (ha : a ≤ limit) (hb : b ≤ limit) :
    commonDivisor a b ≤ limit := by
  rw [commonDivisor_eq_gcd]
  rcases Nat.eq_zero_or_pos a with rfl | hpos
  · rwa [Nat.gcd_zero_left]
  · exact (Nat.gcd_le_left b hpos).trans ha

/-- The rounds on words of 64 bits come to an end with a word. -/
inductive Rounds : UInt64 → UInt64 → UInt64 → Prop where
  | done (a : UInt64) : Rounds a 0 a
  | next {a b d : UInt64} (hb : b ≠ 0) (rest : Rounds b (a % b) d) : Rounds a b d

/-- On words `Rounds` are the same as on numbers. -/
theorem rounds_of_lt (ha : a < 2 ^ 64) (hb : b < 2 ^ 64) :
    Rounds a.toUInt64 b.toUInt64 (commonDivisor a b).toUInt64 := by
  fun_induction commonDivisor a b with
  | case1 a => exact .done a.toUInt64
  | case2 a b hne ih =>
    -- The remainder of two words is the word of the remainder.
    have hmod : a.toUInt64 % b.toUInt64 = (a % b).toUInt64 := by
      rw [← UInt64.toNat_inj, UInt64.toNat_mod, toNat_toUInt64 ha, toNat_toUInt64 hb,
        toNat_toUInt64 ((Nat.mod_le a b).trans_lt ha)]
    refine .next (fun hzero => hne ?_) ?_
    · rw [← toNat_toUInt64 hb, hzero]
      rfl
    · rw [hmod]
      exact ih hb ((Nat.mod_le a b).trans_lt ha)

/-- A natural number divides two integers, and every common divisor divides it.  It is zero only for
two zeros. -/
structure IsGreatestDivisor (d : Nat) (a b : Int) : Prop where
  dvd_left : (d : Int) ∣ a
  dvd_right : (d : Int) ∣ b
  dvd_of_dvd : ∀ c : Int, c ∣ a → c ∣ b → c ∣ d
  eq_zero_iff : d = 0 ↔ a = 0 ∧ b = 0

/-- `commonDivisor` of the sizes of two integers is their greatest divisor. -/
theorem isGreatestDivisor (a b : Int) :
    IsGreatestDivisor (commonDivisor a.natAbs b.natAbs) a b := by
  have hgcd : commonDivisor a.natAbs b.natAbs = Int.gcd a b := commonDivisor_eq_gcd _ _
  rw [hgcd]
  exact ⟨Int.gcd_dvd_left a b, Int.gcd_dvd_right a b, fun c => Int.dvd_coe_gcd, Int.gcd_eq_zero_iff⟩

end ScriptCore.Number
