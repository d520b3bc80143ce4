import ScriptCore.Native.Error
import ScriptCore.Value

/-!
# Parameters

Native functions look at their arguments with the functions of this module, each of which refuses
what is not as it must be with an error about the function that is named to it.  `Arity.expect` looks
at how many arguments there are, `Argument.number` and `Parameter.argument` at the one at a place, and
`Argument.numbers` at all of them.
-/

namespace ScriptCore

/-- What an argument must be. -/
inductive Parameter where
  /-- Any number. -/
  | number
  /-- A number that is an integer, of a size up to `Number.exactLimit`. -/
  | integer
  /-- Such an integer that is not below zero. -/
  | count
  /-- A text. -/
  | string
deriving DecidableEq

namespace Parameter

/-- What a body gets for an argument. -/
abbrev Carrier : Parameter → Type
  | number => Float
  | integer => Int
  | count => Nat
  | string => String

/-- The name of the type of value that an argument must have. -/
def typeName : Parameter → String
  | number | integer | count => "number"
  | string => "string"

/-- The integer that a number is, if it is one of a size that is exact. -/
def exactInteger? (x : Float) : Option Int :=
  (Number.integer? x).filter fun n => n.natAbs ≤ Number.exactLimit

/-- Reads a number as an exact integer. -/
def readInteger (index : Nat) (x : Float) : Except DomainFault Int :=
  match exactInteger? x with
  | some n => .ok n
  | none => .error (.notInteger index x)

/-- Reads a number as an exact integer that is not below zero. -/
def readCount (index : Nat) (x : Float) : Except DomainFault Nat := do
  let n ← readInteger index x
  if n < 0 then throw (.negative index n) else return n.natAbs

/-- Reads a value as the argument at a place. -/
def read (function : String) (index : Nat) (p : Parameter) (value : Value) :
    Except NativeError p.Carrier :=
  let wrongType := NativeError.argumentType function index p.typeName value.typeName
  match p, value with
  | number, .number x => .ok x
  | integer, .number x => (readInteger index x).mapError (.domain function)
  | count, .number x => (readCount index x).mapError (.domain function)
  | string, .string s => .ok s
  | _, _ => .error wrongType

/-- Looks an argument up at its place and reads it.  Functions that count their arguments first find
one at every place they look at. -/
def argument (p : Parameter) (function : String) (arguments : List Value) (index : Nat) :
    Except NativeError p.Carrier :=
  match arguments[index]? with
  | some value => p.read function index value
  | none => .error (.argumentCount function (.atLeast (index + 1)) arguments.length)

end Parameter

variable {ν : Type}

/-- Refuses arguments if there are too many or too few of them. -/
def Arity.expect (arity : Arity) (function : String) (arguments : List (Value ν)) :
    Except NativeError Unit :=
  if arity.accepts arguments.length then .ok ()
  else .error (.argumentCount function arity arguments.length)

namespace Argument

/-- The argument at a place as a number. -/
def number (function : String) (values : List (Value ν)) (index : Nat) : Except NativeError ν :=
  match values[index]? with
  | none => .error (.argumentCount function (.atLeast (index + 1)) values.length)
  | some (.number x) => .ok x
  | some value => .error (.argumentType function index "number" value.typeName)

/-- All arguments as numbers, place by place. -/
def numbers (function : String) (values : List (Value ν)) : Except NativeError (List ν) :=
  (List.range values.length).mapM (number function values)

end Argument

end ScriptCore
