import ScriptCore.Token.Basic
import ScriptCore.Token.Error
import ScriptCore.Token.Letter
import ScriptCore.Token.Symbol

/-!
# From a source to its tokens

The source is read once from left to right.  Between tokens, skippable characters are dropped; at
any other character `nextLexeme` takes the longest text that is a token, which is decided by the
first character and at most one more, or reports the fault.

* `nextLexeme_text` says that a lexeme and the rest make up what was read;
* `step_shorter` says that every step leaves less to read, so the reading ends.
-/

namespace ScriptCore

/-- The text of a token as it stands in the source, with the kind and value of the token. -/
structure Lexeme where
  kind : Kind
  value : List Char
  text : List Char
deriving DecidableEq

/-- A lexeme whose value is its text. -/
def Lexeme.plain (kind : Kind) (text : List Char) : Lexeme := ⟨kind, text, text⟩

namespace Lexer

/-- Whether the character opens a string; the same one closes it. -/
def isQuote (c : Char) : Bool := c == '"' || c == '\''

/-- Reads a string after its opening quote: all up to the same quote, whatever it is. -/
def stringLexeme (quote : Char) (cs : List Char) : Except LexFault (Lexeme × List Char) :=
  let content := cs.takeWhile (· != quote)
  match cs.dropWhile (· != quote) with
  | [] => .error (.unterminatedString quote)
  | close :: rest => .ok (⟨.string, content, quote :: content ++ [close]⟩, rest)

/-- Reads a run of characters of one class, the first of which is given. -/
def runLexeme (kind : List Char → Kind) (inClass : Char → Bool) (first : Char) (cs : List Char) :
    Lexeme × List Char :=
  let text := first :: cs.takeWhile inClass
  (.plain (kind text) text, cs.dropWhile inClass)

/-- A word is a keyword if it is reserved and an identifier otherwise. -/
def wordKind (word : List Char) : Kind := (keyword? (String.ofList word)).getD .identifier

/-- Reads the first character of a symbol alone. -/
def aloneLexeme (symbol : Symbol) (cs : List Char) : Except LexFault (Lexeme × List Char) :=
  match symbol.alone with
  | some kind => .ok (.plain kind [symbol.first], cs)
  | none => .error (.unrecognizedCharacter symbol.first)

/-- Reads a symbol after its first character: with the second one if that makes an operator. -/
def symbolLexeme (symbol : Symbol) (cs : List Char) : Except LexFault (Lexeme × List Char) :=
  match cs with
  | [] => aloneLexeme symbol []
  | second :: rest =>
    match symbol.pairs.lookup second with
    | some kind => .ok (.plain kind [symbol.first, second], rest)
    | none => aloneLexeme symbol (second :: rest)

/-- Reads the token that begins with `c`, and gives it with the rest of the source. -/
def nextLexeme (c : Char) (cs : List Char) : Except LexFault (Lexeme × List Char) :=
  if isQuote c then stringLexeme c cs
  else if c.isDigit then .ok (runLexeme (fun _ => .number) Char.isDigit c cs)
  else
    match symbol? c with
    | some symbol => symbolLexeme symbol cs
    | none =>
      if isLetter c then .ok (runLexeme wordKind isLetter c cs)
      else .error (.unrecognizedCharacter c)

/-- What `stringLexeme` takes and what it leaves are the text behind the opening quote. -/
theorem stringLexeme_text {quote : Char} {cs rest : List Char} {l : Lexeme}
    (h : stringLexeme quote cs = .ok (l, rest)) : quote :: cs = l.text ++ rest := by
  unfold stringLexeme at h
  split at h
  · simp at h
  · next close rest' hd =>
    simp only [Except.ok.injEq, Prod.mk.injEq] at h
    obtain ⟨rfl, rfl⟩ := h
    conv => lhs; rw [← List.takeWhile_append_dropWhile (p := (· != quote)) (l := cs), hd]
    simp

/-- What `runLexeme` takes and what it leaves are the text. -/
theorem runLexeme_text (kind : List Char → Kind) (inClass : Char → Bool) (c : Char)
    (cs : List Char) :
    (runLexeme kind inClass c cs).1.text ++ (runLexeme kind inClass c cs).2 = c :: cs := by
  simp [runLexeme, Lexeme.plain]

/-- What `aloneLexeme` takes and what it leaves are the text. -/
theorem aloneLexeme_text {symbol : Symbol} {cs rest : List Char} {l : Lexeme}
    (h : aloneLexeme symbol cs = .ok (l, rest)) : symbol.first :: cs = l.text ++ rest := by
  unfold aloneLexeme at h
  split at h
  · simp only [Except.ok.injEq, Prod.mk.injEq] at h
    obtain ⟨rfl, rfl⟩ := h
    rfl
  · simp at h

/-- What `symbolLexeme` takes and what it leaves are the text. -/
theorem symbolLexeme_text {symbol : Symbol} {cs rest : List Char} {l : Lexeme}
    (h : symbolLexeme symbol cs = .ok (l, rest)) : symbol.first :: cs = l.text ++ rest := by
  unfold symbolLexeme at h
  split at h
  · exact aloneLexeme_text h
  · split at h
    · simp only [Except.ok.injEq, Prod.mk.injEq] at h
      obtain ⟨rfl, rfl⟩ := h
      rfl
    · exact aloneLexeme_text h

/-- `symbol?` finds a symbol by its first character. -/
theorem first_of_symbol? {c : Char} {symbol : Symbol} (h : symbol? c = some symbol) :
    symbol.first = c := by
  simpa using List.find?_some h

/-- What `nextLexeme` takes and what it leaves are the text, whichever reader it calls. -/
theorem nextLexeme_text {c : Char} {cs rest : List Char} {l : Lexeme}
    (h : nextLexeme c cs = .ok (l, rest)) : c :: cs = l.text ++ rest := by
  -- The branches of `nextLexeme`: quote, digit, symbol, letter.
  unfold nextLexeme at h
  split at h
  · exact stringLexeme_text h
  · split at h
    · simp only [Except.ok.injEq] at h
      rw [← runLexeme_text (fun _ => Kind.number) Char.isDigit c cs, h]
    · split at h
      · next symbol hs =>
        rw [← first_of_symbol? hs]
        exact symbolLexeme_text h
      · split at h
        · simp only [Except.ok.injEq] at h
          rw [← runLexeme_text wordKind isLetter c cs, h]
        · simp at h

/-- A lexeme that `nextLexeme` takes has at least one character. -/
theorem nextLexeme_text_ne_nil {c : Char} {cs rest : List Char} {l : Lexeme}
    (h : nextLexeme c cs = .ok (l, rest)) : l.text ≠ [] := by
  unfold nextLexeme stringLexeme runLexeme symbolLexeme aloneLexeme at h
  grind [Lexeme.plain]

/-- `nextLexeme` leaves less than it was given. -/
theorem nextLexeme_shorter {c : Char} {cs rest : List Char} {l : Lexeme}
    (h : nextLexeme c cs = .ok (l, rest)) : rest.length < (c :: cs).length := by
  have := List.length_pos_iff.2 (nextLexeme_text_ne_nil h)
  rw [nextLexeme_text h]
  simp only [List.length_append]
  omega

/-- The token of a lexeme that begins at an offset. -/
def tokenAt (offset : Nat) (l : Lexeme) : Token :=
  ⟨l.kind, String.ofList l.value, ⟨offset, offset + Text.byteLength l.text⟩⟩

/-- Where a fault at the front of `cs` is: an open string takes all that is left, any other fault
one character. -/
def faultSpan (offset : Nat) (cs : List Char) : LexFault → Span
  | .unterminatedString _ => ⟨offset, offset + Text.byteLength cs⟩
  | .unrecognizedCharacter c => ⟨offset, offset + c.utf8Size⟩
  | .sourceTooLarge _ => .point offset

end Lexer

/-- How far a source has been read: the offset, the tokens before it and the text from it on. -/
structure Reading where
  offset : Nat
  tokens : Array Token
  rest : List Char

namespace Reading

/-- The beginning of a source. -/
def ofSource (source : String) : Reading := ⟨0, #[], source.toList⟩

/-- Reads one skippable character or one token of a text that begins with `c`. -/
def step (r : Reading) (c : Char) (cs : List Char) : Except LexError Reading :=
  if isSkippable c then
    .ok { r with offset := r.offset + c.utf8Size, rest := cs }
  else
    match Lexer.nextLexeme c cs with
    | .error fault => .error ⟨fault, Lexer.faultSpan r.offset (c :: cs) fault⟩
    | .ok (l, rest) =>
      .ok
        { offset := r.offset + Text.byteLength l.text
          tokens := r.tokens.push (Lexer.tokenAt r.offset l)
          rest }

/-- A `step` leaves less to read, so `run` ends. -/
theorem step_shorter {r next : Reading} {c : Char} {cs : List Char}
    (h : r.step c cs = .ok next) : next.rest.length < (c :: cs).length := by
  unfold step at h
  split at h
  · obtain rfl := Except.ok.inj h
    simp
  · split at h
    · exact nomatch h
    · next l rest hl =>
      obtain rfl := Except.ok.inj h
      exact Lexer.nextLexeme_shorter hl

/-- Reads to the end. -/
def run (r : Reading) : Except LexError (Array Token) :=
  match hr : r.rest with
  | [] => .ok (r.tokens.push (.eof r.offset))
  | c :: cs =>
    match hs : r.step c cs with
    | .error e => .error e
    | .ok next =>
      have : next.rest.length < r.rest.length := hr ▸ step_shorter hs
      next.run
termination_by r.rest.length

end Reading

/-- The greatest offset of a span. -/
def offsetLimit : Nat := UInt32.size - 1

/-- The tokens of a source, of which the last one marks its end, or the first fault. -/
def tokenize (source : String) : Except LexError (Array Token) :=
  if source.utf8ByteSize ≤ offsetLimit then (Reading.ofSource source).run
  else .error ⟨.sourceTooLarge source.utf8ByteSize, .point 0⟩

end ScriptCore
