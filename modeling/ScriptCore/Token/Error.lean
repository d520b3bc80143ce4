import ScriptCore.Text.Quoted
import ScriptCore.Token.Span

/-!
# Lexical errors

A source with a fault has no tokens.  The first fault is reported with its place, and the diagnostic
shows the text at that place.
-/

namespace ScriptCore

/-- What can be wrong with a source. -/
inductive LexFault where
  /-- The source ends before the quote that closes a string. -/
  | unterminatedString (quote : Char)
  /-- A character with which no token begins. -/
  | unrecognizedCharacter (character : Char)
  /-- A source whose offsets would not fit. -/
  | sourceTooLarge (bytes : Nat)
deriving DecidableEq

namespace LexFault

/-- A code point in hexadecimal, upper case, with at least four digits. -/
def codePoint (c : Char) : String :=
  let digits := (Nat.toDigits 16 c.toNat).map Char.toUpper
  String.ofList (List.replicate (4 - digits.length) '0' ++ digits)

/-- The name of a fault. -/
def name : LexFault → String
  | unterminatedString _ => "UnterminatedString"
  | unrecognizedCharacter _ => "UnrecognizedCharacter"
  | sourceTooLarge _ => "SourceTooLarge"

/-- The text of a fault. -/
def message : LexFault → String
  | unterminatedString quote =>
    "unterminated string literal (missing closing " ++ quote.toString ++ ")"
  | unrecognizedCharacter c =>
    "unrecognized character " ++ Text.quotedChar c ++ " (U+" ++ codePoint c ++ ")"
  | sourceTooLarge bytes =>
    "source is too large to tokenize (" ++ toString bytes ++ " bytes)"

end LexFault

/-- A fault and its place. -/
structure LexError where
  fault : LexFault
  span : Span
deriving DecidableEq

namespace LexError

/-- The text of an error: the fault and where it is. -/
def message (e : LexError) : String := e.fault.message ++ " at " ++ e.span.display

/-- A full diagnostic, with the text at the place if there is any. -/
def diagnostic (e : LexError) (source : String) : String :=
  let line := "error: " ++ e.message
  match e.span.text? source with
  | some text => if text.isEmpty then line else line ++ " -> `" ++ text ++ "`"
  | none => line

end LexError

end ScriptCore
