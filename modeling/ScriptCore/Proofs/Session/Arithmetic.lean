import ScriptCore.Proofs.Number.Divisor
import ScriptCore.Proofs.Number.Prime
import ScriptCore.Proofs.Session.Answer

/-!
# Primes and common divisors in a session

Both functions go over from binary64 numbers to words of 64 bits and back.  Nothing is lost on the
way: the integers that are taken are exact, and so is the divisor that comes back.

* `isPrime_of_global`: all numbers have an answer, also those that are no exact integers;
* `gcd_of_global`: all exact integers have a greatest common divisor, and calls can be nested.
-/

namespace ScriptCore.Session

open Number

variable {s : Session} {global : ScopeId} {x y : Float} {a b : Int}

/-! ## Primes -/

/-- An answer of `isPrime` for a number. -/
structure TellsPrime (s : Session) (global : ScopeId) (x : Float) (answer : Bool) : Prop where
  answers : s.Answers global "isPrime" [.number x] (.ok (.boolean answer))
  iff_prime : answer = true ↔ ∃ p : Nat, p.Prime ∧ (Exact.ofFloat x).value? = some (p : ℚ)
  /-- An integer that is too large to be taken for one is even, so it is no prime. -/
  beyond : ∀ n : Int, (Exact.ofFloat x).value? = some (n : ℚ) → 2 ^ 53 < n.natAbs →
    Even n ∧ answer = false ∧ ∀ function index,
      Parameter.integer.Refuses function index (.number x) (.domain function (.notInteger index x))
  /-- The trial division of an odd number comes to this answer on words of 64 bits. -/
  search : ∀ n : Nat, IsExactInteger x n → 3 ≤ n → n % 2 = 1 → Search n.toUInt64 3 answer

/-- `isPrime` answers what `Builtin.isPrime` tells. -/
theorem IsGlobal.answers_isPrime (h : s.IsGlobal global) (x : Float) :
    s.Answers global "isPrime" [.number x] (.ok (.boolean (Builtin.isPrime x))) := by
  have hrow : Builtin.find? "isPrime" = some (.of "isPrime" Builtin.primality) := rfl
  have hread : (Signature.fixed [.number]).read "isPrime" [.number x] = .ok (x, ()) :=
    Signature.read_fixed_eq_ok_iff.2 ⟨rfl, trivial⟩
  exact h.answers hrow fun _ => Builtin.reads_primality.eq_ok hread rfl

/-- `Builtin.isPrime` tells of odd numbers from three on what the trial division finds. -/
theorem isPrime_of_odd {n : Nat} (hx : IsExactInteger x n) (hn : 3 ≤ n) (hodd : n % 2 = 1) :
    Builtin.isPrime x = noDivisorFrom n 3 := by
  have hsmall : ¬n < 2 := by omega
  have hnotEven : ¬n % 2 = 0 := by omega
  have hnonneg : (0 : Int) ≤ n := Int.natCast_nonneg n
  rw [Builtin.isPrime, Parameter.exactInteger?_eq_some_iff.2 hx]
  simp only [hnonneg, decide_true, Bool.true_and, Int.natAbs_natCast, Number.isPrime,
    if_neg hsmall, if_neg hnotEven]

/-- In a global scope `isPrime` has an answer for every number: whether the number is a prime. -/
theorem isPrime_of_global (h : s.IsGlobal global) (x : Float) :
    ∃ answer, s.TellsPrime global x answer := by
  refine ⟨Builtin.isPrime x, h.answers_isPrime x, Builtin.isPrime_iff, fun n hn hlarge => ?_,
    fun n hx hthree hodd => ?_⟩
  · have heven := even_of_value? hn hlarge.le
    -- The number stands for one integer only, and that is too large.
    have hinexact (k : Int) : ¬IsExactInteger x k := by
      rintro ⟨hk, hsize⟩
      rw [hn, Option.some.injEq, Int.cast_inj] at hk
      omega
    refine ⟨heven, ?_, fun function index => .notInteger (.inl rfl) hinexact⟩
    rw [Builtin.isPrime, Parameter.exactInteger?_eq_none_iff.2 hinexact]
  -- An odd number from three on is searched, and the search on words goes as that on numbers.
  · rw [isPrime_of_odd hx hthree hodd]
    exact search_of_le (by simpa using hx.2) (by decide)

/-- A prime, and the number that is greater than all others. -/
theorem isPrime_of_global_infinity :
    let s := (start 0 0).run [.newGlobal .silent]
    s.IsGlobal ⟨0⟩ ∧
    s.Answers ⟨0⟩ "isPrime" [.number (ofNat 7)] (.ok (.boolean true)) ∧
    s.Answers ⟨0⟩ "isPrime" [.number infinity] (.ok (.boolean false)) := by
  intro s
  have hglobal : s.IsGlobal ⟨0⟩ := isGlobal_run (sound_start 0 0) .silent (by decide)
  obtain ⟨answer, hprime⟩ := isPrime_of_global hglobal (ofNat 7)
  obtain ⟨other, hinfinite⟩ := isPrime_of_global hglobal infinity
  have hanswer : answer = true :=
    hprime.iff_prime.2 ⟨7, Nat.prime_seven, (isExactInteger_ofNat (by decide)).1⟩
  have hother : other = false := by
    have hvalue : Exact.ofFloat infinity = .infinity false := by decide +kernel
    rw [← Bool.not_eq_true, hinfinite.iff_prime, hvalue]
    rintro ⟨p, -, hp⟩
    cases hp
  exact ⟨hglobal, hanswer ▸ hprime.answers, hother ▸ hinfinite.answers⟩

/-! ## Common divisors -/

/-- An answer of `gcd` for two numbers that stand for integers: a number that stands for a natural
number. -/
structure GivesDivisor (s : Session) (global : ScopeId) (x y : Float) (a b : Int) (z : Float)
    (d : Nat) : Prop where
  answers : s.Answers global "gcd" [.number x, .number y] (.ok (.number z))
  exact : IsExactInteger z d
  greatest : IsGreatestDivisor d a b
  /-- The divisions come to an end on words of 64 bits. -/
  rounds : Rounds a.natAbs.toUInt64 b.natAbs.toUInt64 d.toUInt64
  /-- Neither the signs nor the order of the arguments make a difference. -/
  answers_abs : ∀ x' y' a' b', IsExactInteger x' a' → IsExactInteger y' b' →
    a'.natAbs = a.natAbs → b'.natAbs = b.natAbs →
    s.Answers global "gcd" [.number x', .number y'] (.ok (.number z)) ∧
    s.Answers global "gcd" [.number y', .number x'] (.ok (.number z))
  /-- With a third number, it makes no difference which two come first. -/
  answers_assoc : ∀ w c, IsExactInteger w c → ∃ v r,
    s.Answers global "gcd" [.number y, .number w] (.ok (.number v)) ∧
    s.Answers global "gcd" [.number z, .number w] (.ok (.number r)) ∧
    s.Answers global "gcd" [.number x, .number v] (.ok (.number r))

/-- `gcd` answers the number of the divisor of the two sizes. -/
theorem IsGlobal.answers_gcd (h : s.IsGlobal global) (hx : IsExactInteger x a)
    (hy : IsExactInteger y b) : s.Answers global "gcd" [.number x, .number y]
      (.ok (.number (ofNat (commonDivisor a.natAbs b.natAbs)))) := by
  have hrow : Builtin.find? "gcd" = some (.of "gcd" Builtin.commonDivisor) := rfl
  have hread : (Signature.fixed [.integer, .integer]).read "gcd" [.number x, .number y] =
      .ok (a, b, ()) :=
    Signature.read_fixed_eq_ok_iff.2 ⟨⟨x, rfl, hx⟩, ⟨y, rfl, hy⟩, trivial⟩
  exact h.answers hrow fun _ => Builtin.reads_commonDivisor.eq_ok hread rfl

/-- `commonDivisor` of two exact integers is exact. -/
theorem isExactInteger_commonDivisor (hx : IsExactInteger x a) (hy : IsExactInteger y b) :
    IsExactInteger (ofNat (commonDivisor a.natAbs b.natAbs))
      (commonDivisor a.natAbs b.natAbs : Nat) :=
  isExactInteger_ofNat (commonDivisor_le hx.2 hy.2)

/-- In a global scope `gcd` gives the greatest common divisor of all exact integers. -/
theorem gcd_of_global (h : s.IsGlobal global) (hx : IsExactInteger x a) (hy : IsExactInteger y b) :
    ∃ z d, s.GivesDivisor global x y a b z d := by
  have hz := isExactInteger_commonDivisor hx hy
  refine ⟨_, _, h.answers_gcd hx hy, hz, isGreatestDivisor a b, ?_, ?_, ?_⟩
  · exact rounds_of_lt (hx.2.trans_lt (by decide)) (hy.2.trans_lt (by decide))
  -- The answer depends on the sizes only.
  · intro x' y' a' b' hx' hy' ha hb
    constructor
    · rw [← ha, ← hb]
      exact h.answers_gcd hx' hy'
    · rw [← ha, ← hb, commonDivisor_comm]
      exact h.answers_gcd hy' hx'
  · intro w c hw
    -- The divisor of the last two is exact, so it can be given to the next call.
    refine ⟨_, _, h.answers_gcd hy hw, h.answers_gcd hz hw, ?_⟩
    have hnested := h.answers_gcd hx (isExactInteger_commonDivisor hy hw)
    rw [Int.natAbs_natCast, ← commonDivisor_assoc] at hnested
    rwa [Int.natAbs_natCast]

/-- Six is the divisor of a positive and a negative number. -/
theorem gcd_of_global_negative :
    let s := (start 0 0).run [.newGlobal .silent]
    s.IsGlobal ⟨0⟩ ∧ IsExactInteger (ofNat 12) 12 ∧ IsExactInteger (ofInt (-18)) (-18) ∧
    ∃ z, s.GivesDivisor ⟨0⟩ (ofNat 12) (ofInt (-18)) 12 (-18) z 6 := by
  intro s
  have hglobal : s.IsGlobal ⟨0⟩ := isGlobal_run (sound_start 0 0) .silent (by decide)
  have htwelve : IsExactInteger (ofNat 12) 12 := isExactInteger_ofNat (by decide)
  have heighteen : IsExactInteger (ofInt (-18)) (-18) := by
    have hparts : Exact.ofFloat (ofInt (-18)) = .finite true (18 * 2 ^ 48) (-48) := by
      decide +kernel
    refine ⟨?_, by decide⟩
    rw [hparts, Exact.value?]
    norm_num
  obtain ⟨z, d, hd⟩ := gcd_of_global hglobal htwelve heighteen
  have hdvd : (d : Int) ∣ 6 := by simpa using dvd_add hd.greatest.dvd_left hd.greatest.dvd_right
  have hgreatest : (6 : Int) ∣ d := hd.greatest.dvd_of_dvd 6 (by decide) (by decide)
  have hsix : d = 6 :=
    Nat.dvd_antisymm (Int.natCast_dvd_natCast.1 hdvd) (Int.natCast_dvd_natCast.1 hgreatest)
  exact ⟨hglobal, htwelve, heighteen, z, hsix ▸ hd⟩

end ScriptCore.Session
