import ScriptCore.Text.Bytes

/-!
# Cursors

A cursor is a place in a source, given by a byte offset.  It moves by whole characters, over runs of
them, or straight to a byte.  A walk is a cursor with a pile of saved places to go back to.
-/

namespace ScriptCore

/-- A place in a source. -/
structure Cursor where
  source : String
  offset : Nat
deriving DecidableEq

namespace Cursor

/-- The start of a source. -/
def ofSource (source : String) : Cursor := ⟨source, 0⟩

/-- The number of bytes of the source. -/
def sourceLength (c : Cursor) : Nat := c.source.utf8ByteSize

/-- The characters from the cursor on. -/
def rest (c : Cursor) : List Char :=
  ((Text.splitAtByte? c.offset c.source.toList).map (·.2)).getD []

/-- Whether nothing is left. -/
def atEnd (c : Cursor) : Bool := c.sourceLength ≤ c.offset

/-- The character at the cursor. -/
def current? (c : Cursor) : Option Char := c.rest.head?

/-- The character after the current one. -/
def peek? (c : Cursor) : Option Char := c.rest.tail.head?

/-- Moves over one character; at the end it stays. -/
def advance (c : Cursor) : Cursor :=
  match c.current? with
  | some d => { c with offset := c.offset + d.utf8Size }
  | none => c

/-- Moves over all characters up to the first one outside a class. -/
def skipWhile (c : Cursor) (inClass : Char → Bool) : Cursor :=
  { c with offset := c.offset + Text.byteLength (c.rest.takeWhile inClass) }

/-- Moves to the next place of a byte below 128, and tells if there is one; if not, it moves to the
end. -/
def seek (c : Cursor) (byte : UInt8) : Bool × Cursor :=
  match (Text.bytes c.rest).findIdx? (· == byte) with
  | some distance => (true, { c with offset := c.offset + distance })
  | none => (false, { c with offset := c.sourceLength })

/-- The text between two offsets. -/
def slice? (c : Cursor) (start stop : Nat) : Option String :=
  (Text.slice? c.source.toList start stop).map String.ofList

/-- The text from an offset up to the cursor. -/
def sliceFrom? (c : Cursor) (start : Nat) : Option String := c.slice? start c.offset

end Cursor

/-! ## Walks -/

/-- One step of a walk. -/
inductive Move where
  | stay
  | advance
  | skipWhile (inClass : Char → Bool)
  | seek (byte : UInt8)
  | slice (start stop : Nat)
  | sliceFrom (start : Nat)
  | save
  | restore

/-- What a step answers. -/
inductive MoveAnswer where
  | none
  | found (yes : Bool)
  | text (text : Option String)
  | nothingSaved

/-- A cursor and the places saved on the way, the last one first. -/
structure Walk where
  cursor : Cursor
  saved : List Cursor

namespace Walk

/-- A walk that begins at the start of a source. -/
def ofSource (source : String) : Walk := ⟨.ofSource source, []⟩

/-- Takes one step. -/
def step (w : Walk) : Move → MoveAnswer × Walk
  | .stay => (.none, w)
  | .advance => (.none, { w with cursor := w.cursor.advance })
  | .skipWhile inClass => (.none, { w with cursor := w.cursor.skipWhile inClass })
  | .seek byte =>
    let (found, cursor) := w.cursor.seek byte
    (.found found, { w with cursor })
  | .slice start stop => (.text (w.cursor.slice? start stop), w)
  | .sliceFrom start => (.text (w.cursor.sliceFrom? start), w)
  | .save => (.none, { w with saved := w.cursor :: w.saved })
  | .restore =>
    match w.saved with
    | cursor :: saved => (.none, ⟨cursor, saved⟩)
    | [] => (.nothingSaved, w)

end Walk

end ScriptCore
