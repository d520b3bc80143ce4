import ScriptCore.Proofs.Token.Lexeme
import ScriptCore.Proofs.Token.Seek

/-!
# Reading with a cursor

The tokens of a source can be read in place: a scanner moves a cursor over the source and cuts the
texts of the tokens out of it.  Nothing in its moves says that they pass a character.  A run goes over
the characters of a class from the cursor on, also over none, and a text that was not passed is cut
out as well as one that was.

A round of the scanner reads what the character at the cursor begins, or reports the fault; the
cursor moves in both cases.  `nextToken?` has no outcome at all where the scanner asks for a text at
offsets that are no boundaries.

* `nextToken?_eq_step`: a round is a step of the reading, so it always has an outcome;
* `nextToken?_eq`: what is taken is the next lexeme.
-/

namespace ScriptCore

open Text (byteLength byteLength_append byteLength_cons byteLength_nil)

/-- A cursor in a source, and the tokens that have been read. -/
structure Scanner where
  cursor : Cursor
  tokens : Array Token

namespace Scanner

/-- How a round ends, and the state of the scanner then. -/
inductive Outcome where
  | read (s : Scanner)
  | failed (error : LexError) (s : Scanner)

/-- The start of a source. -/
def ofSource (source : String) : Scanner := ⟨.ofSource source, #[]⟩

/-- Moves over one character. -/
def advance (s : Scanner) : Scanner := { s with cursor := s.cursor.advance }

/-- Moves over the characters of a class. -/
def skipWhile (s : Scanner) (inClass : Char → Bool) : Scanner :=
  { s with cursor := s.cursor.skipWhile inClass }

/-- Moves to the next place of a byte and tells if there is one, or moves to the end. -/
def seek (s : Scanner) (byte : UInt8) : Bool × Scanner :=
  ((s.cursor.seek byte).1, { s with cursor := (s.cursor.seek byte).2 })

/-- Adds the token that begins at an offset and ends at the cursor. -/
def push? (s : Scanner) (kind : Kind) (start : Nat) : Option Scanner :=
  (s.cursor.sliceFrom? start).map fun value =>
    { s with tokens := s.tokens.push ⟨kind, value, ⟨start, s.cursor.offset⟩⟩ }

/-- Reports that no token begins at an offset before the cursor. -/
def unrecognized (s : Scanner) (c : Char) (start : Nat) : Outcome :=
  .failed ⟨.unrecognizedCharacter c, ⟨start, s.cursor.offset⟩⟩ s

/-- Reads a symbol: its first character, and a second one if that makes an operator. -/
def readSymbol? (s : Scanner) (symbol : Symbol) : Option Outcome :=
  let start := s.cursor.offset
  let s := s.advance
  match s.cursor.current?.bind fun second => symbol.pairs.lookup second with
  | some kind => (s.advance.push? kind start).map .read
  | none =>
    match symbol.alone with
    | some kind => (s.push? kind start).map .read
    | none => some (s.unrecognized symbol.first start)

/-- Reads a string from one quote to the next. -/
def readString? (s : Scanner) (quote : UInt8) : Option Outcome :=
  let start := s.cursor.offset
  let s := s.advance
  let contentStart := s.cursor.offset
  let (found, s) := s.seek quote
  if found then
    (s.cursor.sliceFrom? contentStart).map fun content =>
      let s := s.advance
      .read { s with tokens := s.tokens.push ⟨.string, content, ⟨start, s.cursor.offset⟩⟩ }
  else some (.failed ⟨.unterminatedString (Char.ofUInt8 quote), ⟨start, s.cursor.offset⟩⟩ s)

/-- Reads the characters of a class that are ahead; the kind depends on their text. -/
def readRun? (s : Scanner) (kind : String → Kind) (inClass : Char → Bool) : Option Outcome :=
  let start := s.cursor.offset
  let s := s.skipWhile inClass
  (s.cursor.sliceFrom? start).bind fun text => (s.push? (kind text) start).map .read

/-- One round, at the character `c`: drops it, reads a token or reports a fault. -/
def nextToken? (s : Scanner) (c : Char) : Option Outcome :=
  if isSkippable c then some (.read s.advance)
  else
    match symbol? c with
    | some symbol => s.readSymbol? symbol
    | none =>
      if Lexer.isQuote c then s.readString? c.toUInt8
      else if c.isDigit then s.readRun? (fun _ => .number) Char.isDigit
      else if isLetter c then s.readRun? (fun text => (keyword? text).getD .identifier) isLetter
      else some (s.advance.unrecognized c s.cursor.offset)

/-! ## What a round is to come to -/

/-- The scanner at another offset. -/
def moveTo (s : Scanner) (offset : Nat) : Scanner := { s with cursor := { s.cursor with offset } }

/-- The scanner after a lexeme that it has read. -/
def take (s : Scanner) (l : Lexeme) : Scanner :=
  ⟨(s.moveTo (s.cursor.offset + byteLength l.text)).cursor,
    s.tokens.push (Lexer.tokenAt s.cursor.offset l)⟩

/-- The outcome of a round that has read a lexeme off the text `cs`, or found a fault in front of it.
The cursor is then where the lexeme or the fault ends. -/
def outcome (s : Scanner) (cs : List Char) : Except LexFault (Lexeme × List Char) → Outcome
  | .ok (l, _) => .read (s.take l)
  | .error fault =>
    let span := Lexer.faultSpan s.cursor.offset cs fault
    .failed ⟨fault, span⟩ (s.moveTo span.stop)

variable {s : Scanner} {c : Char} {cs before piece after : List Char} {kind : Kind}

/-! ## Single moves -/

/-- The two lemmas on `moveTo` are for `simp`: only the last move counts. -/
@[simp] theorem offset_moveTo (s : Scanner) (offset : Nat) :
    (s.moveTo offset).cursor.offset = offset := rfl

@[simp] theorem moveTo_moveTo (s : Scanner) (offset stop : Nat) :
    (s.moveTo offset).moveTo stop = s.moveTo stop := rfl

/-- `moveTo` by the bytes of a piece goes behind it. -/
theorem stands_moveTo (h : s.cursor.Stands before (piece ++ after)) :
    (s.moveTo (s.cursor.offset + byteLength piece)).cursor.Stands (before ++ piece) after :=
  h.forward piece

/-- `advance` moves by the bytes of the character. -/
theorem advance_eq (h : s.cursor.Stands before (c :: cs)) :
    s.advance = s.moveTo (s.cursor.offset + byteLength [c]) := by
  have hcurrent : s.cursor.current? = some c := h.current?_eq
  rw [advance, moveTo, Cursor.advance, hcurrent]
  rfl

/-- `skipWhile` moves by the bytes of the run. -/
theorem skipWhile_eq (h : s.cursor.Stands before after) (inClass : Char → Bool) :
    s.skipWhile inClass = s.moveTo (s.cursor.offset + byteLength (after.takeWhile inClass)) := by
  rw [skipWhile, moveTo, Cursor.skipWhile, h.rest_eq]

/-- `seek` goes where `skipWhile` goes for the other characters. -/
theorem seek_eq (h : s.cursor.Stands before after) {byte : UInt8} (hbyte : byte < 128) :
    s.seek byte = (decide (Char.ofUInt8 byte ∈ after), s.skipWhile (· != Char.ofUInt8 byte)) := by
  rw [seek, skipWhile, h.seek_eq hbyte]

/-- `Cursor.sliceFrom?` cuts out what was passed. -/
theorem sliceFrom?_eq (h : s.cursor.Stands before (piece ++ after)) :
    (s.moveTo (s.cursor.offset + byteLength piece)).cursor.sliceFrom? s.cursor.offset =
      some (String.ofList piece) :=
  h.slice?_eq (stands_moveTo h) rfl

/-- The token of `push?`, which ends at the cursor, has what was passed for its text. -/
theorem push?_eq (h : s.cursor.Stands before (piece ++ after)) :
    (s.moveTo (s.cursor.offset + byteLength piece)).push? kind s.cursor.offset =
      some (s.take (.plain kind piece)) := by
  rw [push?, sliceFrom?_eq h]
  rfl

/-! ## Readers -/

/-- `readRun?` takes the first character with the others if that is in the class, as
`Lexer.runLexeme` does. -/
theorem readRun?_eq {inClass : Char → Bool} (h : s.cursor.Stands before (c :: cs))
    (hc : inClass c) (kind : String → Kind) : s.readRun? kind inClass = some (s.outcome (c :: cs)
      (.ok (Lexer.runLexeme (fun text => kind (String.ofList text)) inClass c cs))) := by
  have hpassed := skipWhile_eq h inClass
  rw [List.takeWhile_cons_of_pos hc] at hpassed
  have hrun : s.cursor.Stands before ((c :: cs.takeWhile inClass) ++ cs.dropWhile inClass) := by
    rwa [List.cons_append, List.takeWhile_append_dropWhile]
  unfold readRun?
  simp only [hpassed, sliceFrom?_eq hrun, push?_eq hrun, Option.bind_some, Option.map_some]
  rfl

/-- `readSymbol?` takes the second character if that makes an operator, as `Lexer.symbolLexeme`
does. -/
theorem readSymbol?_eq {symbol : Symbol} (h : s.cursor.Stands before (symbol.first :: cs)) :
    s.readSymbol? symbol = some (s.outcome (symbol.first :: cs) (Lexer.symbolLexeme symbol cs)) := by
  have hadvance := advance_eq h
  have hfirst : (s.moveTo (s.cursor.offset + byteLength [symbol.first])).cursor.Stands
      (before ++ [symbol.first]) cs := stands_moveTo h
  -- Without a second character that counts, the first one is alone or a fault.
  have halone : (match symbol.alone with
      | some kind => ((s.moveTo (s.cursor.offset + byteLength [symbol.first])).push? kind
          s.cursor.offset).map Outcome.read
      | none => some ((s.moveTo (s.cursor.offset + byteLength [symbol.first])).unrecognized
          symbol.first s.cursor.offset)) =
      some (s.outcome (symbol.first :: cs) (Lexer.aloneLexeme symbol cs)) := by
    have hfirst : s.cursor.Stands before ([symbol.first] ++ cs) := h
    rw [Lexer.aloneLexeme]
    cases symbol.alone with
    | some kind =>
      simp only [push?_eq hfirst]
      rfl
    | none =>
      simp only [outcome, unrecognized, offset_moveTo, Lexer.faultSpan, byteLength_cons,
        byteLength_nil, Nat.add_zero]
  unfold readSymbol?
  simp only [hadvance]
  simp only [hfirst.current?_eq]
  -- There is no second character, or it is looked up in the pairs of the symbol.
  cases cs with
  | nil => exact halone
  | cons second rest =>
    simp only [Lexer.symbolLexeme, List.getElem?_cons_zero, Option.bind_some]
    cases symbol.pairs.lookup second with
    | none => exact halone
    | some kind =>
      -- Both characters are passed, one after the other.
      have hpair : s.cursor.Stands before ([symbol.first, second] ++ rest) := h
      have hlength : byteLength [symbol.first] + byteLength [second] =
          byteLength [symbol.first, second] := (byteLength_append [symbol.first] [second]).symm
      simp only [advance_eq hfirst, offset_moveTo, moveTo_moveTo, Nat.add_assoc, hlength,
        push?_eq hpair]
      rfl

/-- `readString?` takes all up to the next quote; without one the cursor goes to the end, as
`Lexer.stringLexeme` says. -/
theorem readString?_eq {quote : UInt8} (hquote : quote < 128)
    (h : s.cursor.Stands before (Char.ofUInt8 quote :: cs)) :
    s.readString? quote = some (s.outcome (Char.ofUInt8 quote :: cs)
      (Lexer.stringLexeme (Char.ofUInt8 quote) cs)) := by
  have hadvance := advance_eq h
  have hopen : (s.moveTo (s.cursor.offset + byteLength [Char.ofUInt8 quote])).cursor.Stands
      (before ++ [Char.ofUInt8 quote]) cs := stands_moveTo h
  have hseek := seek_eq hopen hquote
  -- The search stops at the first quote, and at the end if there is none.
  rw [skipWhile_eq hopen] at hseek
  have hsplit : cs.takeWhile (· != Char.ofUInt8 quote) ++ cs.dropWhile (· != Char.ofUInt8 quote) =
      cs := List.takeWhile_append_dropWhile
  unfold readString? Lexer.stringLexeme
  simp only [hadvance, hseek]
  obtain ⟨hmem, rest, hdrop⟩ | ⟨hmem, hdrop⟩ := Cursor.dropWhile_bne (Char.ofUInt8 quote) cs
  · rw [hdrop] at hsplit ⊢
    rw [← hsplit] at hopen
    have hclose := advance_eq (stands_moveTo hopen)
    have htext := sliceFrom?_eq hopen
    -- The two quotes are of the same length, whatever is between them.
    have hlength (content : List Char) : s.cursor.offset + byteLength [Char.ofUInt8 quote] +
        byteLength content + byteLength [Char.ofUInt8 quote] = s.cursor.offset +
          byteLength (Char.ofUInt8 quote :: content ++ [Char.ofUInt8 quote]) := by
      simp only [byteLength_append, byteLength_cons, byteLength_nil]
      omega
    simp only [offset_moveTo, moveTo_moveTo] at hclose htext
    simp only [hmem, decide_true, if_true, offset_moveTo, moveTo_moveTo, htext, hclose, hlength,
      Option.map_some]
    rfl
  · -- Without a quote all that is left is passed.
    rw [hdrop, List.append_nil] at hsplit
    have hlength : byteLength [Char.ofUInt8 quote] + byteLength cs =
        byteLength (Char.ofUInt8 quote :: cs) :=
      (byteLength_append [Char.ofUInt8 quote] cs).symm
    rw [hdrop]
    simp only [hmem, decide_false, Bool.false_eq_true, if_false, hsplit, offset_moveTo,
      moveTo_moveTo, Nat.add_assoc, hlength]
    rfl

/-! ## Rounds -/

/-- `nextToken?` takes what `Lexer.nextLexeme` reads, or stops at the fault in front of it. -/
theorem nextToken?_eq (h : s.cursor.Stands before (c :: cs)) (hc : isSkippable c = false) :
    s.nextToken? c = some (s.outcome (c :: cs) (Lexer.nextLexeme c cs)) := by
  rw [nextToken?, hc, if_neg Bool.false_ne_true]
  -- The order of the branches differs from that of the lexer, but no character fits two of them.
  cases hsymbol : symbol? c with
  | some symbol =>
    obtain rfl := Lexer.first_of_symbol? hsymbol
    rw [Lexer.nextLexeme_of_symbol (Lexer.mem_of_symbol? hsymbol)]
    exact readSymbol?_eq h
  | none =>
    by_cases hquote : Lexer.isQuote c
    -- Both quotes are bytes below 128, and are sought as such.
    · have hbyte : c.toUInt8 < 128 ∧ Char.ofUInt8 c.toUInt8 = c := by
        obtain rfl | rfl := Lexer.eq_of_isQuote hquote <;> decide
      have hstring := readString?_eq hbyte.1 (hbyte.2.symm ▸ h)
      rw [hbyte.2] at hstring
      rw [Lexer.nextLexeme_of_isQuote hquote, ← hstring]
      exact if_pos hquote
    by_cases hdigit : c.isDigit
    · rw [Lexer.nextLexeme_of_isDigit hdigit, ← readRun?_eq h hdigit fun _ => .number]
      simp only [hquote, hdigit, if_true, if_false, Bool.false_eq_true]
    by_cases hletter : isLetter c
    · rw [Lexer.nextLexeme_of_isLetter hletter]
      simp only [hquote, hdigit, hletter, if_true, if_false, Bool.false_eq_true]
      exact readRun?_eq h hletter fun text => (keyword? text).getD .identifier
    -- What fits nowhere is a fault.
    · have hread : Lexer.nextLexeme c cs = .error (.unrecognizedCharacter c) := by
        rw [Lexer.nextLexeme, if_neg hquote, if_neg hdigit, hsymbol]
        exact if_neg hletter
      have hstop : s.cursor.offset + byteLength [c] = s.cursor.offset + c.utf8Size := by
        rw [byteLength_cons, byteLength_nil, Nat.add_zero]
      rw [hread]
      simp only [hquote, hdigit, hletter, if_false, Bool.false_eq_true, advance_eq h, hstop]
      rfl

/-- What is left to a scanner, as the beginning of a reading. -/
def reading (s : Scanner) : Reading := ⟨s.cursor.offset, s.tokens, s.cursor.rest⟩

/-- The outcome of a round that comes to what a step of the reading does. -/
def resume (s : Scanner) : Except LexError Reading → Outcome
  | .ok next => .read ⟨(s.moveTo next.offset).cursor, next.tokens⟩
  | .error e => .failed e (s.moveTo e.span.stop)

/-- A round of `nextToken?` is a step of `Reading`. -/
theorem nextToken?_eq_step (h : s.cursor.Stands before (c :: cs)) :
    s.nextToken? c = some (s.resume (s.reading.step c cs)) := by
  unfold Reading.step
  cases hc : isSkippable c with
  | true =>
    rw [nextToken?, if_pos hc, advance_eq h, byteLength_cons, byteLength_nil, Nat.add_zero]
    rfl
  | false =>
    rw [nextToken?_eq h hc]
    cases Lexer.nextLexeme c cs <;> rfl

end Scanner

end ScriptCore
