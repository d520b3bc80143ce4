/-!
# Exact values of binary64 numbers

A finite binary64 number is a whole number times a power of two.  This module reads sign, whole
number and power from the bits and answers from them, in exact arithmetic, which numbers are
integral and what is left when the fraction is dropped.
-/

namespace ScriptCore.Number

/-- What a binary64 number stands for.  A finite one has the absolute value
`significand * 2 ^ exponent`. -/
inductive Exact where
  | notANumber
  | infinity (negative : Bool)
  | finite (negative : Bool) (significand : Nat) (exponent : Int)
deriving DecidableEq

namespace Exact

/-- Reads the 64 bits of a number: one of sign, eleven of exponent, 52 of fraction. -/
def ofBits (bits : Nat) : Exact :=
  let negative := decide (Nat.pow 2 63 ≤ bits)
  let biased : Nat := bits / Nat.pow 2 52 % Nat.pow 2 11
  let fraction : Nat := bits % Nat.pow 2 52
  if biased = Nat.pow 2 11 - 1 then
    if fraction = 0 then .infinity negative else .notANumber
  else if biased = 0 then .finite negative fraction (-1074)
  else .finite negative (Nat.pow 2 52 + fraction) ((biased : Int) - 1075)

/-- What `x` stands for. -/
def ofFloat (x : Float) : Exact := ofBits x.toBits.toNat

/-- Whether the number is finite and has no fraction. -/
def isIntegral : Exact → Bool
  | finite _ m e => 0 ≤ e || m % Nat.pow 2 (-e).toNat == 0
  | _ => false

/-- The number with its fraction dropped, if it is finite. -/
def truncated? : Exact → Option Int
  | finite negative m e =>
    let size := if 0 ≤ e then m * Nat.pow 2 e.toNat else m / Nat.pow 2 (-e).toNat
    some (if negative then -(size : Int) else size)
  | _ => none

end Exact

/-- Whether `x` is finite and has no fraction. -/
def isIntegral (x : Float) : Bool := (Exact.ofFloat x).isIntegral

/-- The integer that `x` is, if it is one. -/
def integer? (x : Float) : Option Int :=
  if isIntegral x then (Exact.ofFloat x).truncated? else none

/-- Every integer up to this size is a binary64 number. -/
def exactLimit : Nat := 1 <<< 53

/-- The number of a natural number below `2 ^ 64`; exact up to `exactLimit`. -/
def ofNat (n : Nat) : Float := n.toUInt64.toFloat

/-- The number of an integer of size below `2 ^ 64`; exact up to `exactLimit`. -/
def ofInt (n : Int) : Float := if n < 0 then -(ofNat n.natAbs) else ofNat n.natAbs

/-- Positive infinity. -/
def infinity : Float := Float.ofBits 0x7FF0000000000000

/-- The number that is no number. -/
def notANumber : Float := Float.ofBits 0x7FF8000000000000

/-- Whether the sign bit is set. -/
def isNegative (x : Float) : Bool := Nat.pow 2 63 ≤ x.toBits.toNat

/-! ## Rounding to integers

A number that is integral, infinite or no number is left as it is.  A result of zero keeps the sign
of the argument, except where halves are rounded up. -/

/-- Rounds by `pick`, which gets the number with its fraction dropped. -/
def roundBy (pick : Int → Int) (x : Float) : Float :=
  let exact := Exact.ofFloat x
  match exact.truncated? with
  | some n =>
    if exact.isIntegral then x
    else
      let r := pick n
      if r = 0 ∧ isNegative x then -(ofNat 0) else ofInt r
  | none => x

/-- The number without its fraction. -/
def truncate (x : Float) : Float := roundBy id x

/-- The greatest integer that is not above `x`. -/
def floor (x : Float) : Float := roundBy (fun n => if isNegative x then n - 1 else n) x

/-- The least integer that is not below `x`. -/
def ceiling (x : Float) : Float := roundBy (fun n => if isNegative x then n else n + 1) x

/-- The nearest integer; a half goes up.  The distance to the floor is compared, since adding a half
would lift the largest number below a half. -/
def roundHalfUp (x : Float) : Float :=
  let below := floor x
  if 0.5 ≤ x - below then below + 1.0 else below

/-- The sign of `x` as a number; zeros and what is no number stay as they are. -/
def sign (x : Float) : Float := if 0.0 < x then 1.0 else if x < 0.0 then -1.0 else x

end ScriptCore.Number
