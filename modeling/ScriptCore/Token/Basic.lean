import ScriptCore.Text.Quoted
import ScriptCore.Token.Kind
import ScriptCore.Token.Span

/-!
# Tokens

A token is plain data: its kind, its value and where it stands.  The value is the text of the token,
except that a string is without its quotes and the end of the source has a fixed word.
-/

namespace ScriptCore

/-- A piece of a source. -/
structure Token where
  kind : Kind
  value : String
  span : Span
deriving DecidableEq, Inhabited

/-- The value of the token that ends a source. -/
def eofValue : String := "EndOfFile"

namespace Token

/-- The token that ends a source of `offset` bytes. -/
def eof (offset : Nat) : Token := ⟨.eof, eofValue, .point offset⟩

/-- Whether the token ends a source. -/
def isEof (t : Token) : Bool := t.kind == .eof

/-- The token moved `offset` bytes to the right. -/
def shift (t : Token) (offset : Nat) : Token := { t with span := t.span.shift offset }

/-- A token in diagnostics. -/
def inspect (t : Token) : String :=
  t.kind.name ++ "(" ++ Text.quoted t.value ++ ") @ " ++ t.span.display

end Token

end ScriptCore
