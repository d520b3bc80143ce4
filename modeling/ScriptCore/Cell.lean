/-!
# Shared cells

Handles to cells that hold a value.  A handle may be copied; all copies see what one of them sets.
-/

namespace ScriptCore

/-- Cells, and the cell that each handle stands for. -/
structure Cells (α : Type) where
  contents : Array α
  handles : Array Nat

namespace Cells

/-- No cells. -/
def empty : Cells α := ⟨#[], #[]⟩

/-- Makes a cell and a handle to it. -/
def new (c : Cells α) (value : α) : Nat × Cells α :=
  (c.handles.size, ⟨c.contents.push value, c.handles.push c.contents.size⟩)

/-- Makes another handle to the cell of a handle. -/
def share (c : Cells α) (handle : Nat) : Option (Nat × Cells α) :=
  c.handles[handle]?.map fun cell => (c.handles.size, { c with handles := c.handles.push cell })

/-- The value in the cell of a handle. -/
def get? (c : Cells α) (handle : Nat) : Option α :=
  c.handles[handle]?.bind fun cell => c.contents[cell]?

/-- Puts a value into the cell of a handle. -/
def set (c : Cells α) (handle : Nat) (value : α) : Cells α :=
  match c.handles[handle]? with
  | some cell => { c with contents := c.contents.modify cell fun _ => value }
  | none => c

/-- Whether two handles stand for one cell. -/
def same (c : Cells α) (a b : Nat) : Bool := c.handles[a]? == c.handles[b]?

/-- A cell in diagnostics, given its value. -/
def inspect (value : String) : String :=
  "LocalScope(RefCell \x7b value: " ++ value ++ " \x7d)"

end Cells

end ScriptCore
