import ScriptCore.Value

/-!
# Bindings

A binding gives a name a value and says for good whether the value may change.  The bindings of one
scope have different names, which the type records.
-/

namespace ScriptCore

/-- Whether a binding may be assigned to. -/
inductive Mutability where
  | mutable
  | constant
deriving DecidableEq

namespace Mutability

/-- Constant or not. -/
def ofConstant (isConstant : Bool) : Mutability := if isConstant then constant else mutable

/-- Whether the binding keeps its value. -/
def isConstant : Mutability → Bool
  | constant => true
  | mutable => false

/-- A mutability in diagnostics. -/
def inspect : Mutability → String
  | mutable => "Mutable"
  | constant => "Constant"

end Mutability

/-- A name with its value. -/
structure Binding where
  name : String
  value : Value
  mutability : Mutability
deriving DecidableEq

/-- The bindings of one scope, the last one declared first. -/
structure Bindings where
  toList : List Binding
  nodup : (toList.map Binding.name).Nodup := by simp
deriving DecidableEq

namespace Bindings

/-- No bindings. -/
def empty : Bindings := { toList := [] }

instance : Inhabited Bindings := ⟨empty⟩

/-- The binding of a name. -/
def get? (bs : Bindings) (name : String) : Option Binding := bs.toList.find? (·.name == name)

/-- Whether a name is bound. -/
def contains (bs : Bindings) (name : String) : Bool := bs.toList.any (·.name == name)

/-- The number of bindings. -/
def size (bs : Bindings) : Nat := bs.toList.length

/-- The bound names, in the order of their characters. -/
def sortedNames (bs : Bindings) : List String :=
  (bs.toList.map Binding.name).mergeSort fun a b => a ≤ b

/-- Adds a binding of a name that is not bound yet; one that is stays as it is. -/
def insert (bs : Bindings) (b : Binding) : Bindings :=
  if h : bs.contains b.name then bs
  else
    { toList := b :: bs.toList
      nodup := by
        simp only [List.map_cons, List.nodup_cons]
        refine ⟨fun hb => h ?_, bs.nodup⟩
        obtain ⟨b', hmem, heq⟩ := List.mem_map.1 hb
        exact List.any_eq_true.2 ⟨b', hmem, by simp [heq]⟩ }

/-- Replaces the value of a binding. -/
def withValue (name : String) (value : Value) (b : Binding) : Binding :=
  if b.name = name then { b with value } else b

/-- `withValue` keeps the name. -/
theorem withValue_name (name : String) (value : Value) (b : Binding) :
    (withValue name value b).name = b.name := by
  unfold withValue
  split <;> rfl

/-- Gives a bound name another value. -/
def update (bs : Bindings) (name : String) (value : Value) : Bindings :=
  { toList := bs.toList.map (withValue name value)
    nodup := by
      have : (bs.toList.map (withValue name value)).map Binding.name = bs.toList.map Binding.name := by
        simp [Function.comp_def, withValue_name]
      rw [this]
      exact bs.nodup }

end Bindings

end ScriptCore
