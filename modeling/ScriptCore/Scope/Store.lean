import ScriptCore.Scope.Binding
import ScriptCore.Scope.Error

/-!
# Scopes

A store holds scopes.  A scope has bindings and the list of the scopes that enclose it, from the
inside to the outside; the list never changes, so a name always resolves along one chain.

A scope lives as long as something holds it: a handle, or a living scope directly inside it.  The
store counts the holds.  When the last one is given up, the scope goes and gives up its own hold on
the scope around it, which may go in turn.
-/

namespace ScriptCore

/-- The number of a scope.  Numbers are not used again. -/
structure ScopeId where
  index : Nat
deriving DecidableEq

/-- One scope. -/
structure Scope where
  /-- The names declared here. -/
  bindings : Bindings
  /-- The scopes around this one, the nearest first. -/
  enclosing : List ScopeId
  /-- The number of handles to the scope and of living scopes directly inside it. -/
  holds : Nat
deriving DecidableEq

/-- Scopes by number; a scope that is gone leaves its place empty. -/
structure Store where
  scopes : Array (Option Scope)
deriving DecidableEq

namespace Store

/-- No scopes. -/
def empty : Store := ⟨#[]⟩

instance : Inhabited Store := ⟨empty⟩

/-- The living scope of a number. -/
def get? (s : Store) (id : ScopeId) : Option Scope := s.scopes[id.index]?.join

/-- Changes a living scope. -/
def modify (s : Store) (id : ScopeId) (f : Scope → Scope) : Store :=
  ⟨s.scopes.modify id.index (Option.map f)⟩

/-- Removes a scope. -/
def remove (s : Store) (id : ScopeId) : Store := ⟨s.scopes.modify id.index fun _ => none⟩

/-- Adds a scope. -/
def add (s : Store) (scope : Scope) : ScopeId × Store :=
  (⟨s.scopes.size⟩, ⟨s.scopes.push (some scope)⟩)

/-! ## Chains -/

/-- The bindings of a scope. -/
def bindings (s : Store) (id : ScopeId) : Bindings :=
  ((s.get? id).map Scope.bindings).getD .empty

/-- A scope and the ones around it, from the inside to the outside. -/
def chain (s : Store) (id : ScopeId) : List ScopeId :=
  match s.get? id with
  | some scope => id :: scope.enclosing
  | none => []

/-- The number of scopes from this one to the outermost one. -/
def depth (s : Store) (id : ScopeId) : Nat := (s.chain id).length

/-- The scope directly around a scope. -/
def parent? (s : Store) (id : ScopeId) : Option ScopeId := (s.chain id).tail.head?

/-- The outermost scope. -/
def root (s : Store) (id : ScopeId) : ScopeId := (s.chain id).getLast?.getD id

/-! ## Creating, holding and releasing -/

/-- Holds a scope once more. -/
def retain (s : Store) (id : ScopeId) : Store :=
  s.modify id fun scope => { scope with holds := scope.holds + 1 }

/-- A new outermost scope, held once. -/
def addRoot (s : Store) : ScopeId × Store :=
  s.add { bindings := .empty, enclosing := [], holds := 1 }

/-- A new scope inside another one, held once.  It holds the scope around it. -/
def addChild (s : Store) (id : ScopeId) : ScopeId × Store :=
  let enclosing := s.chain id
  (s.retain id).add { bindings := .empty, enclosing, holds := 1 }

/-- Gives up one hold on the first scope of a chain.  If it was the last one, the scope is removed,
and with it a hold on the next scope of the chain. -/
def releaseChain (s : Store) : List ScopeId → Store
  | [] => s
  | id :: outer =>
    match s.get? id with
    | some scope =>
      if scope.holds ≤ 1 then (s.remove id).releaseChain outer
      else s.modify id fun scope => { scope with holds := scope.holds - 1 }
    | none => s

/-- Gives up one hold on a scope. -/
def release (s : Store) (id : ScopeId) : Store := s.releaseChain (s.chain id)

/-! ## Names -/

/-- Whether a scope itself declares a name. -/
def hasLocal (s : Store) (id : ScopeId) (name : String) : Bool := (s.bindings id).contains name

/-- The number of names that a scope itself declares. -/
def localSize (s : Store) (id : ScopeId) : Nat := (s.bindings id).size

/-- The innermost scope from here outwards that declares a name. -/
def resolve (s : Store) (id : ScopeId) (name : String) : Except BindingError ScopeId :=
  match (s.chain id).find? (s.hasLocal · name) with
  | some owner => .ok owner
  | none => .error (.unresolved name)

/-- The binding that a name stands for here. -/
def lookupBinding (s : Store) (id : ScopeId) (name : String) : Except BindingError Binding := do
  let owner ← s.resolve id name
  match (s.bindings owner).get? name with
  | some binding => return binding
  -- Does not arise: the owner declares the name.
  | none => throw (.unresolved name)

/-- The value that a name stands for here. -/
def lookup (s : Store) (id : ScopeId) (name : String) : Except BindingError Value :=
  (s.lookupBinding id name).map Binding.value

/-- Whether the binding that a name stands for here is constant. -/
def isConstant (s : Store) (id : ScopeId) (name : String) : Except BindingError Bool :=
  (s.lookupBinding id name).map (·.mutability.isConstant)

/-- Declares a name in a scope.  Scopes around it do not matter. -/
def declare (s : Store) (id : ScopeId) (name : String) (value : Value) (mutability : Mutability) :
    Except BindingError Value × Store :=
  if s.hasLocal id name then (.error (.duplicate name), s)
  else
    (.ok value, s.modify id fun scope =>
      { scope with bindings := scope.bindings.insert ⟨name, value, mutability⟩ })

/-- Assigns to the binding that a name stands for here. -/
def assign (s : Store) (id : ScopeId) (name : String) (value : Value) :
    Except BindingError Value × Store :=
  match s.resolve id name with
  | .error e => (.error e, s)
  | .ok owner =>
    match (s.bindings owner).get? name with
    | none => (.error (.unresolved name), s)
    | some binding =>
      if binding.mutability.isConstant then (.error (.immutable name), s)
      else
        (.ok value, s.modify owner fun scope =>
          { scope with bindings := scope.bindings.update name value })

/-- A scope in diagnostics: its depth and the names it declares itself. -/
def inspect (s : Store) (id : ScopeId) : String :=
  let names := ", ".intercalate ((s.bindings id).sortedNames.map Text.quoted)
  "Environment \x7b depth: " ++ toString (s.depth id) ++ ", names: [" ++ names ++ "] \x7d"

end Store

end ScriptCore
