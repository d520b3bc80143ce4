import ScriptCore.Text.CodePointSet

/-!
# White space

The Unicode property White_Space, which is what trimming removes.  It is wider than the four
characters that separate tokens.
-/

namespace ScriptCore.Text

/-- The white space characters: tab to carriage return, space, next line, no-break space and the
spaces and separators of the other blocks. -/
def whiteSpace : CodePointSet := ⟨#[
  0x0009, 0x000E, 0x0020, 0x0021, 0x0085, 0x0086, 0x00A0, 0x00A1, 0x1680, 0x1681,
  0x2000, 0x200B, 0x2028, 0x202A, 0x202F, 0x2030, 0x205F, 0x2060, 0x3000, 0x3001]⟩

/-- Whether trimming removes the character. -/
def isWhiteSpace (c : Char) : Bool := whiteSpace.contains c

end ScriptCore.Text
