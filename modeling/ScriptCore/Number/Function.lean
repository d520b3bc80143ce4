import ScriptCore.Number.Exact

/-!
# Functions of numbers

Functions that the machine does not provide: some real ones, built from those it does, and the
integer ones, which count in exact arithmetic or step by step in binary64.
-/

namespace ScriptCore.Number

/-- The power of ten. -/
def tenTo (x : Float) : Float := Float.pow 10.0 x

/-- The circle constant. -/
def pi : Float := 3.14159265358979323846

/-- An angle in radians, from one in degrees. -/
def radians (degrees : Float) : Float := degrees * (pi / 180.0)

/-- The exponential less one.  The rounding error of the exponential is taken out by the ratio of
the result to its own logarithm, so small arguments lose nothing. -/
def expLessOne (x : Float) : Float :=
  let u := Float.exp x
  let r := u - 1.0
  if u == 1.0 then x
  else if r == -1.0 || u.isInf then r
  else r * (x / Float.log u)

/-- The length of the hypotenuse.  The longer side is taken out of the root, so that squares neither
overflow nor vanish.  An infinite side makes it infinite whatever the other is. -/
def hypotenuse (x y : Float) : Float :=
  let a := x.abs
  let b := y.abs
  if a.isInf || b.isInf then infinity
  else
    let long := if a < b then b else a
    let short := if a < b then a else b
    if short == 0.0 then long
    else
      let ratio := short / long
      long * Float.sqrt (1.0 + ratio * ratio)

/-- The length of a vector. -/
def vectorLength (xs : List Float) : Float := xs.foldl hypotenuse 0.0

/-! ## Integer functions -/

/-- The greatest common divisor, by division with remainder: the first number makes way for the
second one and that for the remainder, until nothing is left. -/
def commonDivisor (a b : Nat) : Nat :=
  if b = 0 then a else commonDivisor b (a % b)
termination_by b
decreasing_by exact Nat.mod_lt a (Nat.pos_of_ne_zero ‹_›)

/-- Whether no odd number from `d` on, up to the square root, divides `n`. -/
def noDivisorFrom (n d : Nat) : Bool :=
  if d * d ≤ n then
    if d ∣ n then false else noDivisorFrom n (d + 2)
  else true
termination_by n + 1 - d
decreasing_by
  have : d ≤ d * d := Nat.le_mul_self d
  omega

/-- Whether a natural number is prime, by trial of two and the odd numbers. -/
def isPrime (n : Nat) : Bool :=
  if n < 2 then false
  else if n % 2 = 0 then n == 2
  else noDivisorFrom n 3

/-- The factorial overflows above this argument. -/
def factorialLimit : Nat := 170

/-- Multiplies `product` by `factor`, `factor + 1`, … for `count` factors. -/
def risingProduct : Nat → Float → Float → Float
  | 0, _, product => product
  | count + 1, factor, product => risingProduct count (factor + 1.0) (product * factor)

/-- The factorial in binary64. -/
def factorial (n : Nat) : Float :=
  if factorialLimit < n then infinity else risingProduct n 1.0 1.0

/-- Fibonacci numbers overflow above this argument. -/
def fibonacciLimit : Nat := 1476

/-- Goes `count` steps on from two neighbours of the Fibonacci sequence. -/
def fibonacciFrom : Nat → Float → Float → Float
  | 0, a, _ => a
  | count + 1, a, b => fibonacciFrom count b (a + b)

/-- The Fibonacci number in binary64. -/
def fibonacci (n : Nat) : Float :=
  if fibonacciLimit < n then infinity else fibonacciFrom n 0.0 1.0

end ScriptCore.Number
