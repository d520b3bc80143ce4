import ScriptCore.Text.Case

/-!
# Letters and gaps

Identifiers are made of letters, and a letter is a character with two case forms that differ.
Letters of scripts without case, digits and the underscore are none.
-/

namespace ScriptCore

/-- Whether a character can stand in an identifier: its upper and lower case forms differ. -/
def isLetter (c : Char) : Bool :=
  if c.toNat < 128 then c.isAlpha else Text.upperForm c != Text.lowerForm c

/-- Whether a character is dropped between tokens. -/
def isSkippable (c : Char) : Bool := c == ' ' || c == '\t' || c == '\n' || c == '\r'

end ScriptCore
