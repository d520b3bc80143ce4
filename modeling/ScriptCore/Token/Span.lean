import ScriptCore.Text.Bytes

/-!
# Spans

A span is a range of byte offsets in a source: where a token stands, or where a fault was found.
-/

namespace ScriptCore

/-- The bytes from `start` up to `stop`, which is not included. -/
structure Span where
  start : Nat
  stop : Nat
deriving DecidableEq, Inhabited

namespace Span

/-- The span of no bytes at an offset. -/
def point (offset : Nat) : Span := ⟨offset, offset⟩

/-- The number of bytes, if the span does not run backwards. -/
def length? (s : Span) : Option Nat :=
  if s.start ≤ s.stop then some (s.stop - s.start) else none

/-- Whether the span covers no bytes. -/
def isEmpty (s : Span) : Bool := s.start == s.stop

/-- The span moved `offset` bytes to the right. -/
def shift (s : Span) (offset : Nat) : Span := ⟨s.start + offset, s.stop + offset⟩

/-- The text that the span covers, if it lies within the source and cuts no character. -/
def text? (s : Span) (source : String) : Option String :=
  (Text.slice? source.toList s.start s.stop).map String.ofList

/-- A span in messages. -/
def display (s : Span) : String := toString s.start ++ ".." ++ toString s.stop

end Span

end ScriptCore
