import ScriptCore.Number.Layout
import ScriptCore.Scope.Error

/-!
# Errors of native functions

A call fails because of the number of arguments, the type of one, its value, or a binding that the
function could not make, change or find.
-/

namespace ScriptCore

/-- How many arguments a function takes. -/
inductive Arity where
  | exact (n : Nat)
  | atLeast (n : Nat)
deriving DecidableEq

namespace Arity

/-- Whether a number of arguments is right. -/
def accepts : Arity → Nat → Bool
  | exact n, count => count == n
  | atLeast n, count => n ≤ count

/-- A number of arguments in words. -/
def arguments (n : Nat) : String := toString n ++ (if n = 1 then " argument" else " arguments")

/-- An arity in messages. -/
def display : Arity → String
  | exact n => arguments n
  | atLeast n => "at least " ++ arguments n

/-- An arity in diagnostics. -/
def inspect : Arity → String
  | exact n => "Exact(" ++ toString n ++ ")"
  | atLeast n => "AtLeast(" ++ toString n ++ ")"

end Arity

/-- What is wrong with an argument of the right type, or with several together.  Arguments are
counted from zero. -/
inductive DomainFault where
  /-- The argument has a fraction, is not finite, or is too large to be exact. -/
  | notInteger (index : Nat) (found : Float)
  /-- The argument is below zero. -/
  | negative (index : Nat) (found : Int)
  /-- The bounds are in the wrong order. -/
  | emptyRange (low high : Int)
  /-- The result would have too many bytes. -/
  | resultTooLarge
  /-- Something else, told in words. -/
  | other (text : String)
deriving DecidableEq

/-- The text of a domain fault. -/
def DomainFault.message : DomainFault → String
  | notInteger index found =>
    "argument " ++ toString (index + 1) ++ " must be an integer, found " ++ Number.message found
  | negative index found =>
    "argument " ++ toString (index + 1) ++ " must not be negative, found " ++ toString found
  | emptyRange low high =>
    "lower bound " ++ toString low ++ " is greater than upper bound " ++ toString high
  | resultTooLarge => "result string is too large"
  | other text => text

/-- Why a call of a native function failed.  Arguments are counted from zero. -/
inductive NativeError where
  | argumentCount (function : String) (expected : Arity) (found : Nat)
  | argumentType (function : String) (index : Nat) (expected found : String)
  | domain (function : String) (fault : DomainFault)
  | binding (error : BindingError)
deriving DecidableEq

/-- The text of an error; arguments are counted from one in it. -/
def NativeError.message : NativeError → String
  | argumentCount function expected found =>
    function ++ " expects " ++ expected.display ++ ", found " ++ toString found
  | argumentType function index expected found =>
    function ++ ": argument " ++ toString (index + 1) ++ " must be a " ++ expected ++ ", found " ++
      found
  | domain function fault => function ++ ": " ++ fault.message
  | binding error => error.message

end ScriptCore
