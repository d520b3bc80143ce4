import Mathlib.Data.Nat.Prime.Basic
import ScriptCore.Native.Builtin
import ScriptCore.Proofs.Number.Integer

/-!
# Primes by trial division

Two and the odd numbers up to the square root are tried as divisors.  The invariant of the search is
that no divisor lies below the candidate, so what it finds from there on decides.

* `isPrime_iff`: trial division tells the primes;
* `search_of_le`: on words of 64 bits the same search goes through for numbers up to `2 ^ 53`, with
  no square beyond the words;
* `Builtin.isPrime_iff`: of all binary64 numbers the primes are told, also where not every integer
  is one.
-/

namespace ScriptCore

namespace Number

variable {n d : Nat}

/-! ## Trial division -/

/-- `noDivisorFrom` answers for all candidates from `d` on, up to the square root. -/
theorem noDivisorFrom_iff : noDivisorFrom n d = true ↔
    ∀ k, d ≤ k → k % 2 = d % 2 → k * k ≤ n → ¬k ∣ n := by
  -- Induction on the search; the next candidate is the next number of the same parity.
  fun_induction noDivisorFrom n d with
  | case1 d hle hdvd => exact iff_of_false nofun fun h => h d le_rfl rfl hle hdvd
  | case2 d hle hnot ih =>
    rw [ih]
    constructor
    -- A divisor from `d` on is `d` itself or one from the next candidate on.
    · intro h k hk hparity hsquare
      rcases Nat.eq_or_lt_of_le hk with rfl | hlt
      · exact hnot
      · exact h k (by omega) (by omega) hsquare
    · intro h k hk hparity hsquare
      exact h k (by omega) (by omega) hsquare
  | case3 d hgt =>
    refine iff_of_true rfl fun k hk _ hsquare => ?_
    exact absurd (le_trans (Nat.mul_self_le_mul_self hk) hsquare) hgt

/-- `Nat.minFac` of an odd number is odd. -/
theorem minFac_of_odd (hodd : n % 2 = 1) (hn : n ≠ 1) : 3 ≤ n.minFac ∧ n.minFac % 2 = 1 := by
  have hprime := Nat.minFac_prime hn
  have hparity : n.minFac % 2 = 1 := by
    rcases Nat.mod_two_eq_zero_or_one n.minFac with heven | hodd'
    · have htwo : 2 ∣ n := (Nat.dvd_of_mod_eq_zero heven).trans n.minFac_dvd
      omega
    · exact hodd'
  have htwo := hprime.two_le
  exact ⟨by omega, hparity⟩

/-- `noDivisorFrom` started at three tells the primes among the odd numbers. -/
theorem noDivisorFrom_three_iff (hodd : n % 2 = 1) (hn : 3 ≤ n) :
    noDivisorFrom n 3 = true ↔ n.Prime := by
  rw [noDivisorFrom_iff]
  constructor
  · -- The least divisor of a number that is not prime is at most the square root.
    intro h
    by_contra hprime
    have ⟨hthree, hparity⟩ := minFac_of_odd hodd (by omega)
    have hsquare := Nat.minFac_sq_le_self (by omega) hprime
    rw [pow_two] at hsquare
    exact h n.minFac hthree (by omega) hsquare n.minFac_dvd
  -- A prime has no divisor but one and itself, and both are ruled out by the bounds.
  · intro hprime k hk _ hsquare hdvd
    rcases (Nat.dvd_prime hprime).1 hdvd with rfl | rfl
    · omega
    · have hlt : k * 1 < k * k := Nat.mul_lt_mul_of_pos_left (by omega) (by omega)
      omega

/-- `isPrime` tells the primes. -/
theorem isPrime_iff : isPrime n = true ↔ n.Prime := by
  rw [isPrime]
  split
  · exact iff_of_false nofun fun hprime => by have := hprime.two_le; omega
  split
  -- An even number is a prime only if it is two.
  · rename_i hparity
    rw [beq_iff_eq]
    constructor
    · rintro rfl
      exact Nat.prime_two
    · intro hprime
      exact ((Nat.prime_dvd_prime_iff_eq Nat.prime_two hprime).1
        (Nat.dvd_of_mod_eq_zero hparity)).symm
  · exact noDivisorFrom_three_iff (by omega) (by omega)

/-! ## The search on words -/

/-- The search for a divisor of `n` on words of 64 bits comes to an end with an answer.  Neither a
square nor a next candidate is beyond the words. -/
inductive Search (n : UInt64) : UInt64 → Bool → Prop where
  | beyond {d : UInt64} (hsquare : d.toNat * d.toNat < 2 ^ 64) (hlt : n < d * d) : Search n d true
  | divisor {d : UInt64} (hsquare : d.toNat * d.toNat < 2 ^ 64) (hle : d * d ≤ n)
    (hmod : n % d = 0) : Search n d false
  | next {d : UInt64} {answer : Bool} (hsquare : d.toNat * d.toNat < 2 ^ 64) (hle : d * d ≤ n)
    (hmod : n % d ≠ 0) (hnext : d.toNat + 2 < 2 ^ 64) (rest : Search n (d + 2) answer) :
    Search n d answer

/-- The square of a candidate below `2 ^ 32` is a word. -/
theorem square_lt (hd : d < 2 ^ 32) : d.toUInt64.toNat * d.toUInt64.toNat < 2 ^ 64 := by
  rw [toNat_toUInt64 (by omega)]
  calc d * d < 2 ^ 32 * 2 ^ 32 := Nat.mul_lt_mul'' hd hd
    _ = 2 ^ 64 := rfl

/-- The test of the square on words is the one on numbers. -/
theorem square_le_iff (hn : n < 2 ^ 64) (hd : d < 2 ^ 32) :
    d.toUInt64 * d.toUInt64 ≤ n.toUInt64 ↔ d * d ≤ n := by
  rw [UInt64.le_iff_toNat_le, UInt64.toNat_mul, Nat.mod_eq_of_lt (square_lt hd), toNat_toUInt64 hn,
    toNat_toUInt64 (by omega)]

/-- The test of the remainder on words is the one on numbers. -/
theorem mod_eq_zero_iff (hn : n < 2 ^ 64) (hd : d < 2 ^ 64) :
    n.toUInt64 % d.toUInt64 = 0 ↔ d ∣ n := by
  rw [← UInt64.toNat_inj, UInt64.toNat_mod, toNat_toUInt64 hn, toNat_toUInt64 hd,
    Nat.dvd_iff_mod_eq_zero]
  rfl

/-- `Search` on words does what `noDivisorFrom` does on numbers up to `2 ^ 53`. -/
theorem search_of_le (hn : n ≤ 2 ^ 53) (hd : d < 2 ^ 32) :
    Search n.toUInt64 d.toUInt64 (noDivisorFrom n d) := by
  have hword : n < 2 ^ 64 := by omega
  fun_induction noDivisorFrom n d with
  | case1 d hle hdvd =>
    exact .divisor (square_lt hd) ((square_le_iff hword hd).2 hle)
      ((mod_eq_zero_iff hword (by omega)).2 hdvd)
  | case2 d hle hnot ih =>
    -- A candidate that the search goes on from is small, and so is the next one.
    have hsmall : d < 2 ^ 27 := Nat.mul_self_lt_mul_self_iff.1 (by omega)
    have hnext : d.toUInt64 + 2 = (d + 2).toUInt64 := (UInt64.ofNat_add d 2).symm
    refine .next (square_lt hd) ((square_le_iff hword hd).2 hle)
      (mt (mod_eq_zero_iff hword (by omega)).1 hnot) ?_ ?_
    · rw [toNat_toUInt64 (by omega)]
      omega
    · rw [hnext]
      exact ih (by omega)
  | case3 d hgt =>
    exact .beyond (square_lt hd) (UInt64.not_le.1 (mt (square_le_iff hword hd).1 hgt))

end Number

open Number

/-- Whether a binary64 number is an exact integer that is a prime. -/
def Builtin.isPrime (x : Float) : Bool :=
  match Parameter.exactInteger? x with
  | some n => decide (0 ≤ n) && Number.isPrime n.natAbs
  | none => false

/-- `Builtin.isPrime` tells the primes of all binary64 numbers.  The integers that are too large for
the search are even. -/
theorem Builtin.isPrime_iff {x : Float} :
    Builtin.isPrime x = true ↔ ∃ p : Nat, p.Prime ∧ (Exact.ofFloat x).value? = some (p : ℚ) := by
  have hvalue (p : Nat) : ((p : Int) : ℚ) = p := Int.cast_natCast p
  rw [Builtin.isPrime]
  cases hx : Parameter.exactInteger? x with
  | some n =>
    -- The search decides for an exact integer, and a negative one is no prime.
    obtain ⟨hn, hsize⟩ := Parameter.exactInteger?_eq_some_iff.1 hx
    simp only [Bool.and_eq_true, decide_eq_true_eq, Number.isPrime_iff]
    constructor
    · rintro ⟨hpos, hprime⟩
      obtain ⟨p, rfl⟩ := Int.eq_ofNat_of_zero_le hpos
      exact ⟨p, hprime, by rw [hn, hvalue]⟩
    · rintro ⟨p, hprime, hp⟩
      rw [hn, ← hvalue, Option.some.injEq, Int.cast_inj] at hp
      subst hp
      exact ⟨Int.natCast_nonneg p, hprime⟩
  | none =>
    refine iff_of_false nofun ?_
    rintro ⟨p, hprime, hp⟩
    rw [← hvalue] at hp
    -- A prime that is no exact integer would be greater than `2 ^ 53`, and so even.
    have hlarge : 2 ^ 53 < (p : Int).natAbs := by
      by_contra hsmall
      exact Parameter.exactInteger?_eq_none_iff.1 hx p ⟨hp, by omega⟩
    have heven := (even_of_value? hp hlarge.le).two_dvd
    have htwo : 2 = p := (Nat.prime_dvd_prime_iff_eq Nat.prime_two hprime).1 (by omega)
    omega

end ScriptCore
