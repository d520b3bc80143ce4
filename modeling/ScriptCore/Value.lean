import ScriptCore.Number.Layout
import ScriptCore.Text.Quoted

/-!
# Values

The values of scripts.  Equality of scripts is not that of data: what is no number differs from
itself, the two zeros are equal, and a native function is equal only to itself, whatever its name.
-/

namespace ScriptCore

/-- A function that the host provides.  Every one that is made gets a number of its own. -/
structure Native where
  id : Nat
  name : String
deriving DecidableEq

/-- A value of a script.  Scripts compute with numbers of type `Float`, of which one is no number.
Other types are for what looks at numbers more closely: `Value UInt64` has numbers with all their
bits. -/
inductive Value (ν : Type := Float) where
  | null
  | boolean (b : Bool)
  | number (x : ν)
  | string (s : String)
  | native (f : Native)
deriving DecidableEq

namespace Value

instance : Inhabited Value := ⟨null⟩

variable {ν : Type}

/-- The name of the type of a value. -/
def typeName : Value ν → String
  | null => "null"
  | boolean _ => "boolean"
  | number _ => "number"
  | string _ => "string"
  | native _ => "native function"

/-- Whether the value is null. -/
def isNull : Value ν → Bool
  | null => true
  | _ => false

/-- The truth value, if it is one. -/
def boolean? : Value ν → Option Bool
  | boolean b => some b
  | _ => none

/-- The number, if it is one. -/
def number? : Value ν → Option ν
  | number x => some x
  | _ => none

/-- The text, if it is one. -/
def string? : Value ν → Option String
  | string s => some s
  | _ => none

/-- The native function, if it is one. -/
def native? : Value ν → Option Native
  | native f => some f
  | _ => none

/-- Equality as scripts see it. -/
def equals : Value → Value → Bool
  | null, null => true
  | boolean a, boolean b => a == b
  | number x, number y => x == y
  | string s, string t => s == t
  | native f, native g => f.id == g.id
  | _, _ => false

/-- A native function in texts. -/
def nativeText (f : Native) : String := "<native fn " ++ f.name ++ ">"

/-- A value as scripts print it. -/
def display : Value → String
  | null => "null"
  | boolean b => if b then "true" else "false"
  | number x => Number.display x
  | string s => s
  | native f => nativeText f

/-- A value in diagnostics. -/
def inspect : Value → String
  | null => "Null"
  | boolean b => "Boolean(" ++ (if b then "true" else "false") ++ ")"
  | number x => "Number(" ++ Number.inspect x ++ ")"
  | string s => "Str(" ++ Text.quoted s ++ ")"
  | native f => "NativeFunction(" ++ nativeText f ++ ")"

/-- Several values as scripts print them, with a space between two. -/
def displayAll (values : List Value) : String := " ".intercalate (values.map display)

end Value

end ScriptCore
