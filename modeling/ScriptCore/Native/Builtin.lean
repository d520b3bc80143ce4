import ScriptCore.Native.Parameter
import ScriptCore.Number.Function
import ScriptCore.Number.Statistics
import ScriptCore.Text.Canonical
import ScriptCore.Text.Case
import ScriptCore.Text.Search

/-!
# The catalogue

The functions that every global scope offers, in the order in which they are declared: output and
clock, numbers, text.  Numbers are binary64 throughout; lengths and places in texts count
characters, not bytes.

A row of the catalogue has the name that the function is declared with, and a body.  The body gets
the arguments as they come and looks at them itself; the name of the function in its errors is its
own.  The clock and chance come to the body from outside, as an `Ambient`, so a body has no state.
-/

namespace ScriptCore

/-- What a function may know besides its arguments. -/
structure Ambient where
  /-- Milliseconds since the beginning of 1970. -/
  clock : Nat
  /-- A number drawn by chance. -/
  draw : UInt64

/-- What a function does. -/
inductive Behaviour where
  /-- Prints its arguments, and ends the line if `newline` is set. -/
  | output (newline : Bool)
  /-- Computes a value from its arguments, or refuses them. -/
  | compute (body : Ambient → List Value → Except NativeError Value)

/-- A function of the catalogue. -/
structure Builtin where
  name : String
  behaviour : Behaviour

namespace Builtin

/-- A function that asks for neither the time nor chance. -/
def of (name : String) (body : List Value → Except NativeError Value) : Builtin :=
  ⟨name, .compute fun _ => body⟩

/-! ## Shapes of bodies

`function` is the name of the function in its errors. -/

/-- The body of a function of one number. -/
def unary (function : String) (f : Float → Float) (arguments : List Value) :
    Except NativeError Value := do
  Arity.expect (.exact 1) function arguments
  let x ← Argument.number function arguments 0
  return .number (f x)

/-- The body of a function of two numbers. -/
def binary (function : String) (f : Float → Float → Float) (arguments : List Value) :
    Except NativeError Value := do
  Arity.expect (.exact 2) function arguments
  let x ← Argument.number function arguments 0
  let y ← Argument.number function arguments 1
  return .number (f x y)

/-- The body of a function of a count. -/
def counting (function : String) (f : Nat → Float) (arguments : List Value) :
    Except NativeError Value := do
  Arity.expect (.exact 1) function arguments
  let n ← Parameter.count.argument function arguments 0
  return .number (f n)

/-- The body of a function of any numbers, which does not count them. -/
def variadic {ν : Type} (function : String) (f : List ν → ν) (arguments : List (Value ν)) :
    Except NativeError (Value ν) := do
  let xs ← Argument.numbers function arguments
  return .number (f xs)

/-- The body of a function of numbers, of which there must be one at least. -/
def statistic {ν : Type} (function : String) (f : List ν → ν) (arguments : List (Value ν)) :
    Except NativeError (Value ν) := do
  Arity.expect (.atLeast 1) function arguments
  variadic function f arguments

/-- The body of a function that changes a text. -/
def textMap (function : String) (f : List Char → List Char) (arguments : List Value) :
    Except NativeError Value := do
  Arity.expect (.exact 1) function arguments
  let s ← Parameter.string.argument function arguments 0
  return .string (String.ofList (f s.toList))

/-- The body of a function that asks something of two texts. -/
def textTest (function : String) (f : List Char → List Char → Bool) (arguments : List Value) :
    Except NativeError Value := do
  Arity.expect (.exact 2) function arguments
  let s ← Parameter.string.argument function arguments 0
  let t ← Parameter.string.argument function arguments 1
  return .boolean (f s.toList t.toList)

/-- The body of a function that puts a text in place of another one. -/
def textReplace (function : String) (f : List Char → List Char → List Char → List Char)
    (arguments : List Value) : Except NativeError Value := do
  Arity.expect (.exact 3) function arguments
  let s ← Parameter.string.argument function arguments 0
  let t ← Parameter.string.argument function arguments 1
  let u ← Parameter.string.argument function arguments 2
  return .string (String.ofList (f s.toList t.toList u.toList))

/-! ## Bodies of their own -/

/-- The time in milliseconds. -/
def time (clock : Nat) (arguments : List Value) : Except NativeError Value := do
  Arity.expect (.exact 0) "time" arguments
  return .number (Number.ofNat clock)

/-- A number from zero up to one, which is not reached: the upper 53 bits of what is drawn. -/
def fraction (draw : UInt64) : Float :=
  Number.ofNat (draw >>> 11).toNat / Number.ofNat Number.exactLimit

/-- A number by chance. -/
def random (draw : UInt64) (arguments : List Value) : Except NativeError Value := do
  Arity.expect (.exact 0) "random" arguments
  return .number (fraction draw)

/-- An integer between two bounds, both of which it may be. -/
def between (draw : UInt64) (low high : Int) : Except DomainFault Value :=
  if high < low then .error (.emptyRange low high)
  else .ok (.number (Number.ofInt (low + draw.toNat % (high - low + 1))))

/-- An integer by chance. -/
def randomInteger (draw : UInt64) (arguments : List Value) : Except NativeError Value := do
  Arity.expect (.exact 2) "randint" arguments
  let low ← Parameter.integer.argument "randint" arguments 0
  let high ← Parameter.integer.argument "randint" arguments 1
  (between draw low high).mapError (.domain "randint")

/-- The greatest common divisor of two integers. -/
def commonDivisor (arguments : List Value) : Except NativeError Value := do
  Arity.expect (.exact 2) "gcd" arguments
  let a ← Parameter.integer.argument "gcd" arguments 0
  let b ← Parameter.integer.argument "gcd" arguments 1
  return .number (Number.ofNat (Number.commonDivisor a.natAbs b.natAbs))

/-- Whether a number is a prime.  What is no exact integer is none, and refusing it would be too
much; but it has to be a number, so the argument is looked at again. -/
def primality (arguments : List Value) : Except NativeError Value := do
  Arity.expect (.exact 1) "isPrime" arguments
  match Parameter.integer.argument "isPrime" arguments 0 with
  | .error _ =>
    let _ ← Argument.number "isPrime" arguments 0
    return .boolean false
  | .ok n =>
    match n.toNat? with
    | some k => return .boolean (Number.isPrime k)
    | none => return .boolean false

/-- Whether a number has no fraction. -/
def integrality (arguments : List Value) : Except NativeError Value := do
  Arity.expect (.exact 1) "isInt" arguments
  let x ← Argument.number "isInt" arguments 0
  return .boolean (Number.isIntegral x)

/-- The number of characters of a text. -/
def textLength (arguments : List Value) : Except NativeError Value := do
  Arity.expect (.exact 1) "strLen" arguments
  let s ← Parameter.string.argument "strLen" arguments 0
  return .number (Number.ofNat s.length)

/-- The character at a place, as a text; empty if there is none.  The fraction of the place is
dropped. -/
def characterAt (s : String) (place : Float) : String :=
  match (Number.Exact.ofFloat place).truncated? with
  | some n => if n < 0 then "" else ((s.toList[n.natAbs]?).map Char.toString).getD ""
  | none => ""

/-- The character of a text at a place. -/
def textCharacter (arguments : List Value) : Except NativeError Value := do
  Arity.expect (.exact 2) "strCharAt" arguments
  let s ← Parameter.string.argument "strCharAt" arguments 0
  let place ← Argument.number "strCharAt" arguments 1
  return .string (characterAt s place)

/-- The greatest number of bytes that repeating a text may make. -/
def repeatLimit : Nat := 1 <<< 30

/-- A text, `n` times over, by doubling. -/
def copies (s : String) (n : Nat) : String :=
  if n = 0 then ""
  else
    let half := copies s (n / 2)
    if n % 2 = 0 then half ++ half else half ++ half ++ s
termination_by n
decreasing_by omega

/-- Repeats a text, unless the result is too large.  The empty text stays empty. -/
def repeated (s : String) (n : Nat) : Except DomainFault Value :=
  if s.isEmpty then .ok (.string "")
  else if s.utf8ByteSize * n ≤ repeatLimit then .ok (.string (copies s n))
  else .error .resultTooLarge

/-- A text several times over. -/
def textRepeat (arguments : List Value) : Except NativeError Value := do
  Arity.expect (.exact 2) "strRepeat" arguments
  let s ← Parameter.string.argument "strRepeat" arguments 0
  let n ← Parameter.count.argument "strRepeat" arguments 1
  (repeated s n).mapError (.domain "strRepeat")

/-! ## The groups -/

/-- Output and clock. -/
def inputOutput : List Builtin :=
  [⟨"print", .output false⟩,
   ⟨"println", .output true⟩,
   ⟨"time", .compute fun ambient => time ambient.clock⟩]

/-- The names of output and clock, in the order in which the functions are declared. -/
def inputOutputNames : List String := ["print", "println", "time"]

/-- Functions of numbers. -/
def mathematics : List Builtin :=
  [⟨"random", .compute fun ambient => random ambient.draw⟩,
   of "sqrt" (unary "sqrt" Float.sqrt),
   of "pow" (binary "pow" Float.pow),
   of "round" (unary "round" Number.roundHalfUp),
   of "abs" (unary "abs" Float.abs),
   of "ceil" (unary "ceil" Number.ceiling),
   of "floor" (unary "floor" Number.floor),
   of "min" (variadic "min" Number.least),
   of "max" (variadic "max" Number.greatest),
   of "exp" (unary "exp" Float.exp),
   of "sin" (unary "sin" Float.sin),
   of "cos" (unary "cos" Float.cos),
   of "tan" (unary "tan" Float.tan),
   of "asin" (unary "asin" Float.asin),
   of "acos" (unary "acos" Float.acos),
   of "atan" (unary "atan" Float.atan),
   of "sinh" (unary "sinh" Float.sinh),
   of "cosh" (unary "cosh" Float.cosh),
   of "tanh" (unary "tanh" Float.tanh),
   of "expm1" (unary "expm1" Number.expLessOne),
   of "log10" (unary "log10" Float.log10),
   of "sqr" (unary "sqr" fun x => x * x),
   of "cubic" (unary "cubic" fun x => x * x * x),
   of "pow10" (unary "pow10" Number.tenTo),
   of "atan2" (binary "atan2" Float.atan2),
   of "hypot" (variadic "hypot" Number.vectorLength),
   of "trunc" (unary "trunc" Number.truncate),
   of "sgn" (unary "sgn" Number.sign),
   ⟨"randint", .compute fun ambient => randomInteger ambient.draw⟩,
   of "degToRad" (unary "degToRad" Number.radians),
   of "gcd" commonDivisor,
   of "factorial" (counting "factorial" Number.factorial),
   of "isPrime" primality,
   of "fibonacci" (counting "fibonacci" Number.fibonacci),
   of "mean" (statistic "mean" Number.mean),
   of "median" (statistic "median" Number.median),
   of "isInt" integrality]

/-- Functions of texts. -/
def text : List Builtin :=
  [of "strLen" textLength,
   of "strIncludes" (textTest "strIncludes" Text.includes),
   of "strEndsWith" (textTest "strEndsWith" Text.endsWith),
   of "strStartsWith" (textTest "strStartsWith" Text.startsWith),
   of "strToUppercase" (textMap "strToUppercase" Text.toUpper),
   of "strToLowerCase" (textMap "strToLowerCase" Text.toLower),
   of "strReverse" (textMap "strReverse" List.reverse),
   of "strTrim" (textMap "strTrim" Text.trim),
   of "strCharAt" textCharacter,
   of "strNormalize" (textMap "strNormalize" Text.compose),
   of "strTrimStart" (textMap "strTrimStart" Text.trimStart),
   of "strTrimEnd" (textMap "strTrimEnd" Text.trimEnd),
   of "strReplace" (textReplace "strReplace" Text.replaceFirst),
   of "strReplaceAll" (textReplace "strReplaceAll" Text.replaceAll),
   of "strRepeat" textRepeat]

/-- The catalogue. -/
def catalogue : List Builtin := inputOutput ++ mathematics ++ text

/-- The names of the catalogue, in the order in which the functions are declared. -/
def names : List String :=
  inputOutputNames ++ mathematics.map Builtin.name ++ text.map Builtin.name

end Builtin

/-- The literals that every global scope binds. -/
def literals : List (String × Value) :=
  [("true", .boolean true), ("false", .boolean false), ("null", .null)]

end ScriptCore
