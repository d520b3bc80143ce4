import ScriptCore.Text.Quoted

/-!
# Binding errors

The three ways in which declaring, assigning or looking up a name fails.
-/

namespace ScriptCore

/-- Why a binding operation failed, with the name it was about. -/
inductive BindingError where
  /-- The scope has declared the name before. -/
  | duplicate (name : String)
  /-- The binding of the name is constant. -/
  | immutable (name : String)
  /-- No scope from here outwards declares the name. -/
  | unresolved (name : String)
deriving DecidableEq

namespace BindingError

/-- The name that the error is about. -/
def name : BindingError → String
  | duplicate name | immutable name | unresolved name => name

/-- The name of the kind of error. -/
def kindName : BindingError → String
  | duplicate _ => "DuplicateBinding"
  | immutable _ => "ImmutableBinding"
  | unresolved _ => "UnresolvedBinding"

/-- The error of a kind, given by its name. -/
def ofKindName? (kind name : String) : Option BindingError :=
  [duplicate name, immutable name, unresolved name].find? (·.kindName == kind)

/-- The text of an error. -/
def message : BindingError → String
  | duplicate name => "cannot declare variable `" ++ name ++ "`: it is already defined in this scope"
  | immutable name => "cannot assign to constant `" ++ name ++ "`"
  | unresolved name => "cannot resolve `" ++ name ++ "`: it does not exist"

/-- An error in diagnostics. -/
def inspect (e : BindingError) : String :=
  e.kindName ++ " \x7b name: " ++ Text.quoted e.name ++ " \x7d"

end BindingError

end ScriptCore
