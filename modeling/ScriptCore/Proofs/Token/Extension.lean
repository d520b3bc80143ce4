import ScriptCore.Proofs.Token.Fault

/-!
# Faults and what is written after them

The first fault of a source depends on nothing but the text up to it, so it stays when more is
written after the source.  There are two ways to mend it all the same: to close a string that is
open, and to write the second half of an operator of which the first half ends the source.

* `Faulty.append_iff`: a fault stays exactly if it is not mended;
* `exists_place_of_append`: what is read instead of a fault that is mended, and where the next one is;
* `tokenize_append_fault`: which error a longer source has.
-/

namespace ScriptCore

/-- Whether a fault is mended by what is written after a source, if `after` stands in the source
behind the place of the fault. -/
def LexFault.MendedBy (after more : List Char) : LexFault → Prop
  | unterminatedString quote => quote ∈ more
  | unrecognizedCharacter c => c ∈ ['&', '|'] ∧ after = [] ∧ more.head? = some c
  | sourceTooLarge _ => False

namespace Lexer

open Text (byteLength byteLength_append byteLength_cons byteLength_nil)

variable {c : Char} {cs after more : List Char} {fault : LexFault} {offset : Nat} {e : LexError}

/-- Half an operator is not `Foreign`, since the whole one is spelled with it. -/
theorem Foreign.notMem_halves (h : Foreign c) : c ∉ ['&', '|'] := by
  intro hhalf
  simp only [List.mem_cons, List.not_mem_nil, or_false] at hhalf
  rcases hhalf with rfl | rfl
  · exact h.not_spelled ['&', '&'] (by decide) rfl
  · exact h.not_spelled ['|', '|'] (by decide) rfl

/-- What is `Faulty` stays so exactly if what comes after it does not mend it. -/
theorem Faulty.append_iff (h : Faulty c after fault) :
    Faulty c (after ++ more) fault ↔ ¬ fault.MendedBy after more := by
  cases h with
  | unclosed hquote hnot =>
    constructor
    · intro hlonger hmore
      cases hlonger with
      -- More text may hold the quote that closes the string, and that mends it.
      | unclosed _ hnot' => exact hnot' (List.mem_append_right after hmore)
    · intro hmended
      refine .unclosed hquote fun hmem => ?_
      rcases List.mem_append.1 hmem with hafter | hmore
      · exact hnot hafter
      · exact hmended hmore
  | half hhalf hhead =>
    -- The half has to end the text, and the other half to come next.
    constructor
    · rintro hlonger ⟨-, rfl, hmore⟩
      cases hlonger with
      | half _ hhead' => exact hhead' hmore
      | foreign hforeign => exact hforeign.notMem_halves hhalf
    · intro hmended
      refine .half hhalf fun hsame => ?_
      cases after with
      | nil => exact hmended ⟨hhalf, rfl, hsame⟩
      | cons d after => exact hhead hsame
  -- Nothing makes a token begin with a foreign character.
  | foreign hforeign =>
    constructor
    · rintro - ⟨hhalf, -⟩
      exact hforeign.notMem_halves hhalf
    · exact fun _ => .foreign hforeign

/-! ## The next fault -/

/-- `scan` finds no fault before the place where reading begins. -/
theorem le_start_of_scan (h : scan offset cs = .error e) : offset ≤ e.span.start := by
  obtain ⟨before, c, after, ts, -, -, -, -, -, hspan⟩ := exists_place_of_scan h
  rw [hspan, start_faultSpan]
  omega

/-- The place of a fault, and what becomes of the fault when more is written: it stays in its place,
or it is mended and the next one, if there is any, is further on. -/
theorem exists_place_of_append (h : scan offset cs = .error e) (more : List Char) :
    ∃ before c after, cs = before ++ c :: after ∧ Faulty c after e.fault ∧
      e.span = faultSpan (offset + byteLength before) (c :: after) e.fault ∧
      (¬ e.fault.MendedBy after more → scan offset (cs ++ more) =
        .error ⟨e.fault, faultSpan (offset + byteLength before) (c :: (after ++ more)) e.fault⟩) ∧
      (e.fault.MendedBy after more → ∀ e', scan offset (cs ++ more) = .error e' →
        e.span.start < e'.span.start) := by
  -- Everything before the place is read as before, so only the place has to be looked at.
  obtain ⟨before, c, after, ts, rfl, hc, -, hscan, hfaulty, hspan⟩ := exists_place_of_scan h
  refine ⟨before, c, after, rfl, hfaulty, hspan, fun hmended => ?_, fun hmended e' he' => ?_⟩
  · have hfails := (nextLexeme_eq_error_iff hc).2 (hfaulty.append_iff.2 hmended)
    rw [List.append_assoc, List.cons_append, hscan, scan_fault hc hfails]
    rfl
  · rw [List.append_assoc, List.cons_append, hscan, map_eq_error_iff] at he'
    rw [hspan, start_faultSpan]
    cases hread : nextLexeme c (after ++ more) with
    | error fault =>
      -- The lexer had only one fault to find here, and that one is mended.
      have hstill := (nextLexeme_eq_error_iff hc).1 hread
      have hsame := (nextLexeme_eq_error_iff hc).2 hstill.of_append
      rw [(nextLexeme_eq_error_iff hc).2 hfaulty] at hsame
      cases hsame
      exact absurd hmended (hfaulty.append_iff.1 hstill)
    | ok read =>
      obtain ⟨l, rest⟩ := read
      -- The fault is found after the lexeme that is read now.
      rw [scan_lexeme hc hread, map_eq_error_iff] at he'
      have hle := le_start_of_scan he'
      have hpos := Text.byteLength_pos (nextLexeme_text_ne_nil hread)
      omega

/-! ## The error of a longer source -/

/-- An error that covers one character ends the text if nothing stands behind the character. -/
theorem stop_faultSpan_eq_iff (before after : List Char) (c : Char) :
    (faultSpan (byteLength before) (c :: after) (.unrecognizedCharacter c)).stop =
      byteLength (before ++ c :: after) ↔ after = [] := by
  rw [byteLength_append, byteLength_cons, ← Text.byteLength_eq_zero_iff]
  show byteLength before + c.utf8Size = _ ↔ _
  omega

/-- The error of an open string reaches to the end of the text. -/
theorem faultSpan_unterminatedString (before cs : List Char) (quote : Char) :
    faultSpan (byteLength before) cs (.unterminatedString quote) =
      ⟨byteLength before, byteLength (before ++ cs)⟩ := by
  rw [byteLength_append, faultSpan]

/-- The error of a source is also that of every longer source, but for two exceptions that
`LexFault.MendedBy` lists. Half an operator at the very end is mended by its other half. A string
that is open stays open, now up to the new end, until its quote comes; then nothing is wrong with it
any more. -/
theorem tokenize_append_fault (first more : String)
    (h : (first ++ more).utf8ByteSize ≤ offsetLimit) (e : LexError)
    (he : tokenize first = .error e) :
    (∃ c, e.fault = .unrecognizedCharacter c ∧
      (tokenize (first ++ more) = .error e ↔
        ¬ (c ∈ ['&', '|'] ∧ e.span.stop = first.utf8ByteSize ∧ more.toList.head? = some c))) ∨
    (∃ quote, e.fault = .unterminatedString quote ∧
      (tokenize (first ++ more) = .error ⟨.unterminatedString quote,
          ⟨e.span.start, (first ++ more).utf8ByteSize⟩⟩ ↔ quote ∉ more.toList) ∧
      (quote ∈ more.toList → ∀ e', tokenize (first ++ more) = .error e' →
        e'.span.start ≠ e.span.start)) := by
  have hbytes := h
  rw [String.utf8ByteSize_append] at hbytes
  rw [tokenize_eq_error_iff (by omega)] at he
  obtain ⟨before, c, after, htext, hfaulty, hspan, hstays, hmends⟩ :=
    exists_place_of_append he more.toList
  rw [Nat.zero_add] at hspan hstays
  simp only [tokenize_eq_error_iff h, String.toList_append]
  obtain ⟨fault, span⟩ := e
  dsimp only at hfaulty hspan hstays hmends ⊢
  -- The two faults that a text can have are the two exceptions.
  cases fault with
  | unrecognizedCharacter d =>
    obtain rfl : d = c := by cases hfaulty <;> rfl
    refine .inl ⟨d, rfl, ?_⟩
    rw [hspan, Text.utf8ByteSize_eq, htext, stop_faultSpan_eq_iff, ← htext, ← hspan]
    constructor
    -- A fault that is mended would be further on.
    · intro hsame hmended
      have hlater := hmends hmended _ hsame
      exact Nat.lt_irrefl _ hlater
    · intro hmended
      rw [hstays hmended, hspan]
      rfl
  | unterminatedString quote =>
    -- The open string goes to the end of the whole.
    have hwhole : (first ++ more).utf8ByteSize = byteLength (before ++ c :: (after ++ more.toList)) := by
      rw [Text.utf8ByteSize_eq, String.toList_append, htext, List.append_assoc, List.cons_append]
    refine .inr ⟨quote, rfl, ⟨?_, ?_⟩, ?_⟩
    · intro hopen hclosed
      have hlater := hmends hclosed _ hopen
      exact Nat.lt_irrefl _ hlater
    · intro hopen
      rw [hstays hopen, hspan, hwhole, start_faultSpan, faultSpan_unterminatedString]
    · intro hclosed e' he'
      have hlater := hmends hclosed e' he'
      exact Nat.ne_of_gt hlater
  | sourceTooLarge => cases hfaulty

/-- A string that is open goes on over the other quote and an operator. -/
theorem tokenize_append_fault_open :
    ("x='é" ++ "\"&&").utf8ByteSize ≤ offsetLimit ∧
    tokenize "x='é" = .error ⟨.unterminatedString '\'', ⟨2, 5⟩⟩ ∧
    tokenize ("x='é" ++ "\"&&") = .error ⟨.unterminatedString '\'', ⟨2, 8⟩⟩ := by
  have hsize : ("x='é" ++ "\"&&").utf8ByteSize ≤ offsetLimit := by decide
  have hfirst : tokenize "x='é" = .error ⟨.unterminatedString '\'', ⟨2, 5⟩⟩ := by cbv
  refine ⟨hsize, hfirst, ?_⟩
  rcases tokenize_append_fault _ _ hsize _ hfirst with ⟨c, hfault, -⟩ | ⟨quote, hfault, hopen, -⟩
  · cases hfault
  · cases hfault
    exact hopen.2 (by decide)

end Lexer

end ScriptCore
