import ScriptCore.Number.Exact

/-!
# Decimal digits of binary64 numbers

Two ways to choose decimal digits for a positive number `m * 2 ^ e`, both in exact arithmetic:

* `shortest` takes the fewest digits that no other binary64 number is nearer to, and of those the
  nearest to the number;
* `significant` takes a given count of digits and rounds the exact value to nearest, an exact half
  to the even neighbour.
-/

namespace ScriptCore.Number

/-- The number `digits * 10 ^ exponent`. -/
structure Decimal where
  digits : Nat
  exponent : Int
deriving DecidableEq

/-- The number of decimal digits of a natural number. -/
def digitCount (n : Nat) : Nat := (Nat.toDigits 10 n).length

namespace Decimal

/-- The power of ten of the first digit. -/
def leading (d : Decimal) : Int := d.exponent + digitCount d.digits - 1

end Decimal

/-- Numerator and denominator of `m * 2 ^ e / 10 ^ p`. -/
def overPowerOfTen (m : Nat) (e p : Int) : Nat × Nat :=
  (m * Nat.pow 2 e.toNat * Nat.pow 10 (-p).toNat, Nat.pow 2 (-e).toNat * Nat.pow 10 p.toNat)

/-- The power of ten of the first digit of `m * 2 ^ e`.  No positive binary64 number is below
`10 ^ -324`, so it is read off the digits of the whole part after 324 places. -/
def leadingPower (m : Nat) (e : Int) : Int :=
  let (num, den) := overPowerOfTen m e (-324)
  (digitCount (num / den) : Int) - 325

/-- Rounds `num / den` to nearest, an exact half to the even neighbour. -/
def divideToNearest (num den : Nat) : Nat :=
  let below := num / den
  let rest := num % den
  if den < 2 * rest ∨ (2 * rest = den ∧ below % 2 = 1) then below + 1 else below

/-- The value of `m * 2 ^ e` to `count` significant digits. -/
def significant (count : Nat) (m : Nat) (e : Int) : Decimal :=
  let power := leadingPower m e + 1 - count
  let (num, den) := overPowerOfTen m e power
  let digits := divideToNearest num den
  if digits = Nat.pow 10 count then ⟨Nat.pow 10 (count - 1), power + 1⟩ else ⟨digits, power⟩

/-- The decimals that are read as one binary64 number lie between two bounds.  All three are given
in quarters of the last place of the number: `four * m` is the number itself. -/
structure ReadingInterval where
  low : Nat
  value : Nat
  high : Nat
  closed : Bool

/-- The interval of decimals that are read as `m * 2 ^ e`.  It reaches half way to both neighbours;
below a power of two the neighbour is nearer.  The bounds count if `m` is even, because halves are
read as the even one. -/
def readingInterval (m : Nat) (e : Int) : ReadingInterval :=
  { low := if m = Nat.pow 2 52 ∧ -1074 < e then 4 * m - 1 else 4 * m - 2
    value := 4 * m
    high := 4 * m + 2
    closed := m % 2 == 0 }

/-- The decimal of power `p` to write for `m * 2 ^ e`, if one of the two next to the value is read
as it: the nearer one, or the upper one of two at the same distance. -/
def nearestAt? (m : Nat) (e p : Int) : Option Decimal :=
  let interval := readingInterval m e
  -- All three share one denominator, so only the numerators of the bounds are needed.
  let scale (n : Nat) := overPowerOfTen n (e - 2) p
  let (num, den) := scale interval.value
  let low := (scale interval.low).1
  let high := (scale interval.high).1
  let reads (n : Nat) : Bool :=
    if interval.closed then low ≤ n * den && n * den ≤ high else low < n * den && n * den < high
  let below := num / den
  let above := below + 1
  let upperNearer := above * den - num ≤ num - below * den
  if reads above && (upperNearer || !reads below) then some ⟨above, p⟩
  else if reads below then some ⟨below, p⟩
  else none

/-- Tries the powers `p`, `p - 1`, … in turn, at most `count` of them; the next one is tried
last. -/
def shortestFrom (m : Nat) (e : Int) : Nat → Int → Decimal
  | 0, p => ⟨divideToNearest (overPowerOfTen m e p).1 (overPowerOfTen m e p).2, p⟩
  | count + 1, p => (nearestAt? m e p).getD (shortestFrom m e count (p - 1))

/-- Drops the zeros at the end of the digits, at most `count` of them. -/
def dropZeros : Nat → Decimal → Decimal
  | 0, d => d
  | count + 1, d =>
    if d.digits % 10 = 0 then dropZeros count ⟨d.digits / 10, d.exponent + 1⟩ else d

/-- The fewest digits that are read as `m * 2 ^ e`, and of those the nearest.  Seventeen digits tell
any two binary64 numbers apart. -/
def shortest (m : Nat) (e : Int) : Decimal :=
  dropZeros 17 (shortestFrom m e 17 (leadingPower m e))

end ScriptCore.Number
