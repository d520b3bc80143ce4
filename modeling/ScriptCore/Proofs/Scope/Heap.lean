import Mathlib.Data.Finset.Insert
import Mathlib.Data.List.AList
import ScriptCore.Scope.Store

/-!
# Scopes in memory

A `Store` lists the scopes around each scope, and a `Binding` says for itself whether it is constant.
In memory there are neither lists nor such bindings.  A scope has a table of values and one of the
names of constants; it has a handle to the scope around it and a number for its depth; and it has a
count of the handles to it.  Nothing but the operations keeps these in step.

The operations here are those on handles, step by step.  A loop over the scopes from the inside to the
outside holds the scope that it is at with a handle of its own, which it gets before it gives up the
one to the scope before.  A handle that is given up takes its scope with it if there is no other, and
then the handle of that scope is given up, and so on: that is a loop too.

Each loop may take as many rounds as the depth says that is stored in the scope where it starts.  An
operation that needs more rounds has no result, and neither has one that comes to a scope which is
not there.  That this does not happen is proved with the correspondence to stores.
-/

namespace ScriptCore

/-- A scope in memory. -/
structure Frame where
  /-- The values of the names that are declared here. -/
  bindings : AList fun _ : String => Value
  /-- Which of the names may not be assigned to. -/
  constants : Finset String
  /-- The scope directly around this one. -/
  parent : Option ScopeId
  /-- 1 for an outermost scope, and one more than that of the scope around it otherwise. -/
  depth : Nat
  /-- The number of handles, those of the scopes directly inside among them. -/
  holds : Nat

/-- A scope that nothing is around, with its first handle. -/
def Frame.outermost : Frame :=
  { bindings := ∅, constants := ∅, parent := none, depth := 1, holds := 1 }

/-- The scopes in memory. -/
structure Heap where
  /-- The scope at an address, if there is one. -/
  frames : ScopeId → Option Frame
  /-- The next address.  Addresses are not used again. -/
  size : Nat

namespace Heap

/-- No scopes. -/
def empty : Heap := ⟨fun _ => none, 0⟩

/-- Changes the scope at an address. -/
def modify (h : Heap) (x : ScopeId) (f : Frame → Frame) : Heap :=
  { h with frames := Function.update h.frames x ((h.frames x).map f) }

/-- Removes the scope at an address. -/
def free (h : Heap) (x : ScopeId) : Heap := { h with frames := Function.update h.frames x none }

/-- Puts a scope at a new address. -/
def alloc (h : Heap) (frame : Frame) : ScopeId × Heap :=
  (⟨h.size⟩, ⟨Function.update h.frames ⟨h.size⟩ (some frame), h.size + 1⟩)

/-! ## Handles -/

/-- One handle more. -/
def share (h : Heap) (x : ScopeId) : Heap :=
  h.modify x fun frame => { frame with holds := frame.holds + 1 }

/-- A further handle to a scope. -/
def clone (h : Heap) (x : ScopeId) : Option Heap := do
  let _ ← h.frames x
  return h.share x

/-- Gives up a handle.  If it was the last one, the scope goes, and its own handle is the next to be
given up. -/
def unlink : Nat → Heap → Option ScopeId → Option Heap
  | _, h, none => some h
  | 0, _, some _ => none
  | rounds + 1, h, some x => do
    let frame ← h.frames x
    if frame.holds = 1 then unlink rounds (h.free x) frame.parent
    else return h.modify x fun frame => { frame with holds := frame.holds - 1 }

/-- Drops a handle to a scope. -/
def drop (h : Heap) (x : ScopeId) : Option Heap := do
  let frame ← h.frames x
  unlink frame.depth h (some x)

/-! ## Scopes -/

/-- A new outermost scope. -/
def new (h : Heap) : ScopeId × Heap := h.alloc .outermost

/-- A new scope inside another one, with a handle to that. -/
def child (h : Heap) (x : ScopeId) : Option (ScopeId × Heap) := do
  let h ← h.clone x
  let outer ← h.frames x
  return h.alloc { Frame.outermost with parent := some x, depth := outer.depth + 1 }

/-- A handle to the scope around a scope, if there is one. -/
def parent (h : Heap) (x : ScopeId) : Option (Option ScopeId × Heap) := do
  let frame ← h.frames x
  match frame.parent with
  | none => return (none, h)
  | some p => return (some p, ← h.clone p)

/-- Goes from scope to scope as long as there is one around, with a handle to the one it is at. -/
def leave : Nat → Heap → ScopeId → Option (ScopeId × Heap)
  | 0, _, _ => none
  | rounds + 1, h, here => do
    let (outer, h) ← h.parent here
    match outer with
    | none => return (here, h)
    | some p => leave rounds (← h.drop here) p

/-- A handle to the outermost scope. -/
def root (h : Heap) (x : ScopeId) : Option (ScopeId × Heap) := do
  let frame ← h.frames x
  leave frame.depth (← h.clone x) x

/-! ## Names -/

/-- Goes from scope to scope up to the first one that declares a name, with a handle to the one it is
at. -/
def seek (name : String) : Nat → Heap → ScopeId → Option (Except BindingError ScopeId × Heap)
  | 0, _, _ => none
  | rounds + 1, h, here => do
    let frame ← h.frames here
    if name ∈ frame.bindings then return (.ok here, h)
    else
      let (outer, h) ← h.parent here
      match outer with
      | none => return (.error (.unresolved name), ← h.drop here)
      | some p => seek name rounds (← h.drop here) p

/-- A handle to the innermost scope from here outwards that declares a name. -/
def resolve (h : Heap) (x : ScopeId) (name : String) :
    Option (Except BindingError ScopeId × Heap) := do
  let frame ← h.frames x
  seek name frame.depth (← h.clone x) x

/-- Asks the tables of the owner of a name, with a handle to it for as long as that takes.  With the
answer comes the table of values for afterwards. -/
def atOwner {α : Type} (h : Heap) (x : ScopeId) (name : String)
    (ask : (AList fun _ : String => Value) → Finset String →
      Except BindingError α × AList fun _ : String => Value) :
    Option (Except BindingError α × Heap) := do
  let (owner, h) ← h.resolve x name
  match owner with
  | .error e => return (.error e, h)
  | .ok owner =>
    let frame ← h.frames owner
    let (answer, bindings) := ask frame.bindings frame.constants
    return (answer, ← (h.modify owner fun frame => { frame with bindings }).drop owner)

/-- The value of a name. -/
def lookup (h : Heap) (x : ScopeId) (name : String) : Option (Except BindingError Value × Heap) :=
  h.atOwner x name fun bindings _ =>
    match bindings.lookup name with
    | some value => (.ok value, bindings)
    | none => (.error (.unresolved name), bindings)

/-- Whether a name is constant. -/
def isConstant (h : Heap) (x : ScopeId) (name : String) :
    Option (Except BindingError Bool × Heap) :=
  h.atOwner x name fun bindings constants => (.ok (decide (name ∈ constants)), bindings)

/-- Declares a name in a scope. -/
def declare (h : Heap) (x : ScopeId) (name : String) (value : Value) (mutability : Mutability) :
    Option (Except BindingError Value × Heap) := do
  let frame ← h.frames x
  if name ∈ frame.bindings then return (.error (.duplicate name), h)
  else return (.ok value, h.modify x fun frame =>
    { frame with
      bindings := frame.bindings.insert name value
      constants := if mutability.isConstant then insert name frame.constants
        else frame.constants })

/-- Assigns to a name in its owner. -/
def assign (h : Heap) (x : ScopeId) (name : String) (value : Value) :
    Option (Except BindingError Value × Heap) :=
  h.atOwner x name fun bindings constants =>
    if name ∈ constants then (.error (.immutable name), bindings)
    else
      match bindings.lookup name with
      | some _ => (.ok value, bindings.insert name value)
      | none => (.error (.unresolved name), bindings)

end Heap

end ScriptCore
