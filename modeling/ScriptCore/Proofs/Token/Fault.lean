import ScriptCore.Proofs.Token.Grammar
import ScriptCore.Proofs.Token.Tiling

/-!
# Faults and their places

A source that cannot be read has a fault: a string that is not closed, or a character with which no
token begins.  `Faulty` says without the lexer what is wrong with a text at its front.

* `nextLexeme_eq_error_iff`: these are the texts on which the lexer fails;
* `exists_place_of_scan`: all that comes before a fault is read, whatever comes after it;
* `tokenize_fault`: so the place of the error divides the source into what can be read and what
  cannot, and the diagnostic shows the text there.
-/

namespace ScriptCore.Lexer

open Text (byteLength byteLength_append byteLength_cons byteLength_nil)
open Grammar (spellings)

/-! ## What can be wrong -/

/-- A character that is not dropped, and with which no token begins. -/
structure Foreign (c : Char) : Prop where
  isSkippable_eq : isSkippable c = false
  not_quote : c ∉ ['"', '\'']
  isDigit_eq : c.isDigit = false
  isLetter_eq : isLetter c = false
  not_spelled : ∀ text ∈ spellings, text.head? ≠ some c

/-- What is wrong with a text that begins with `c` and goes on with `after`. -/
inductive Faulty (c : Char) (after : List Char) : LexFault → Prop where
  /-- The quote that opens a string does not come again. -/
  | unclosed : c ∈ ['"', '\''] → c ∉ after → Faulty c after (.unterminatedString c)
  /-- One half of an operator that has no meaning of its own. -/
  | half : c ∈ ['&', '|'] → after.head? ≠ some c → Faulty c after (.unrecognizedCharacter c)
  | foreign : Foreign c → Faulty c after (.unrecognizedCharacter c)

/-! ## Where the lexer fails -/

/-- The `symbols` that mean nothing alone are the two that stand only in pairs. -/
private theorem symbols_halves : ∀ s ∈ symbols, s.alone = none →
    s.first ∈ ['&', '|'] ∧ s.pairs.map Prod.fst = [s.first] := by
  decide

/-- Half an operator is one of these `symbols`. -/
private theorem exists_half {c : Char} (h : c ∈ ['&', '|']) :
    ∃ s ∈ symbols, s.first = c ∧ s.alone = none ∧ s.pairs.map Prod.fst = [c] := by
  simp only [List.mem_cons, List.not_mem_nil, or_false] at h
  rcases h with rfl | rfl <;> decide

/-- Each of the `spellings` begins like a symbol. -/
private theorem spellings_head : ∀ text ∈ spellings, ∃ s ∈ symbols, text.head? = some s.first := by
  decide

/-- Each symbol begins like one of the `spellings`. -/
private theorem symbols_head : ∀ s ∈ symbols, ∃ text ∈ spellings, text.head? = some s.first := by
  decide

/-- `stringLexeme` fails if the quote does not come again, and only then. -/
theorem stringLexeme_eq_error_iff {quote : Char} {cs : List Char} {fault : LexFault} :
    stringLexeme quote cs = .error fault ↔ quote ∉ cs ∧ fault = .unterminatedString quote := by
  unfold stringLexeme
  -- What is left when the content is dropped begins with the quote, or there is nothing left.
  cases hdrop : cs.dropWhile (· != quote) with
  | nil =>
    have hnot : quote ∉ cs := fun hmem => by
      simpa using List.dropWhile_eq_nil_iff.1 hdrop quote hmem
    simp [hnot, eq_comm]
  | cons close rest =>
    -- Everything before the first quote is dropped, so something is left only if there is one.
    have hmem : quote ∈ cs := by
      by_contra hnot
      have hnil : cs.dropWhile (· != quote) = [] := by
        rw [List.dropWhile_eq_nil_iff]
        intro c hc
        rw [bne_iff_ne]
        rintro rfl
        exact hnot hc
      rw [hnil] at hdrop
      cases hdrop
    simp [hmem]

/-- `symbolLexeme` fails if the symbol is nothing alone and the next character makes no operator of
it. -/
theorem symbolLexeme_eq_error_iff {s : Symbol} (hs : s ∈ symbols) {cs : List Char}
    {fault : LexFault} :
    symbolLexeme s cs = .error fault ↔ s.alone = none ∧
      (∀ d ∈ cs.head?, d ∉ s.pairs.map Prod.fst) ∧ fault = .unrecognizedCharacter s.first := by
  have halone (cs : List Char) : aloneLexeme s cs = .error fault ↔
      s.alone = none ∧ fault = .unrecognizedCharacter s.first := by
    unfold aloneLexeme
    cases s.alone <;> simp [eq_comm]
  -- The next character is listed with the symbol, so that both are read, or the symbol stands
  -- alone.
  by_cases hpair : ∃ d ∈ cs.head?, d ∈ s.pairs.map Prod.fst
  · obtain ⟨d, hd, hmem⟩ := hpair
    obtain ⟨⟨second, kind⟩, hp, rfl⟩ := List.mem_map.1 hmem
    obtain ⟨rest, rfl⟩ := List.head?_eq_some_iff.1 hd
    have hread : symbolLexeme s (second :: rest) = .ok (.plain kind [s.first, second], rest) :=
      (symbolLexeme_eq_ok_iff hs).2 (.inl ⟨second, kind, hp, rfl, rfl⟩)
    constructor
    · intro h
      rw [hread] at h
      cases h
    · rintro ⟨-, hhead, -⟩
      exact absurd hmem (hhead second rfl)
  · have hhead : ∀ d ∈ cs.head?, d ∉ s.pairs.map Prod.fst := fun d hd hmem => hpair ⟨d, hd, hmem⟩
    have hread : symbolLexeme s cs = aloneLexeme s cs := by
      cases cs with
      | nil => rfl
      | cons second rest =>
        have hlookup := lookup_eq_none_iff_notMem.2 (hhead second rfl)
        simp only [symbolLexeme, hlookup]
    rw [hread, halone]
    exact ⟨fun h => ⟨h.1, hhead, h.2⟩, fun h => ⟨h.1, h.2.2⟩⟩

/-- `symbol?` fails for the characters that begin no symbol. -/
theorem symbol?_eq_none_iff {c : Char} : symbol? c = none ↔ ∀ s ∈ symbols, s.first ≠ c := by
  simp [symbol?]

/-- `symbol?` fails for the characters with which none of the `spellings` begins. -/
theorem symbol?_eq_none_iff_spellings {c : Char} :
    symbol? c = none ↔ ∀ text ∈ spellings, text.head? ≠ some c := by
  rw [symbol?_eq_none_iff]
  constructor
  · intro hnone text htext hhead
    obtain ⟨s, hs, hfirst⟩ := spellings_head text htext
    exact hnone s hs (Option.some.inj (hfirst.symm.trans hhead))
  · rintro hnone s hs rfl
    obtain ⟨text, htext, hhead⟩ := symbols_head s hs
    exact hnone text htext hhead

/-- `nextLexeme` fails on what is `Faulty`, and on nothing else. -/
theorem nextLexeme_eq_error_iff {c : Char} (hc : isSkippable c = false) {after : List Char}
    {fault : LexFault} : nextLexeme c after = .error fault ↔ Faulty c after fault := by
  constructor
  · intro h
    -- The branches of the reader in turn: only the last one is for characters that fit nowhere.
    unfold nextLexeme at h
    split at h
    next hq =>
      obtain ⟨hnot, rfl⟩ := stringLexeme_eq_error_iff.1 h
      exact .unclosed (by simpa [isQuote] using hq) hnot
    next hq =>
      split at h
      next => cases h
      next hd =>
        split at h
        next s hsymbol =>
          have hs := mem_of_symbol? hsymbol
          obtain ⟨halone, hhead, rfl⟩ := (symbolLexeme_eq_error_iff hs).1 h
          -- The table has just two symbols that are nothing alone.
          obtain ⟨hhalf, hpairs⟩ := symbols_halves s hs halone
          rw [first_of_symbol? hsymbol] at hhalf hpairs ⊢
          refine .half hhalf fun hsame => ?_
          have hother := hhead c hsame
          rw [hpairs] at hother
          exact hother (List.mem_singleton_self c)
        next hsymbol =>
          split at h
          next => cases h
          next hl =>
            obtain rfl := Except.error.inj h
            refine .foreign ⟨hc, ?_, ?_, ?_, symbol?_eq_none_iff_spellings.1 hsymbol⟩
            · simpa [isQuote] using hq
            · simpa using hd
            · simpa using hl
  -- The other way round the kind of the fault says which branch fails.
  · intro h
    cases h with
    | unclosed hq hnot =>
      rw [nextLexeme_of_isQuote (by simpa [isQuote] using hq)]
      exact stringLexeme_eq_error_iff.2 ⟨hnot, rfl⟩
    | half hhalf hhead =>
      obtain ⟨s, hs, rfl, halone, hpairs⟩ := exists_half hhalf
      rw [nextLexeme_of_symbol hs]
      refine (symbolLexeme_eq_error_iff hs).2 ⟨halone, fun d hd => ?_, rfl⟩
      rw [hpairs, List.mem_singleton]
      rintro rfl
      exact hhead hd
    | foreign hforeign =>
      have hq : isQuote c = false := by simpa [isQuote] using hforeign.not_quote
      have hsymbol := symbol?_eq_none_iff_spellings.2 hforeign.not_spelled
      simp [nextLexeme, hq, hforeign.isDigit_eq, hsymbol, hforeign.isLetter_eq]

/-- `faultSpan` begins where the fault was found. -/
theorem start_faultSpan (offset : Nat) (cs : List Char) (fault : LexFault) :
    (faultSpan offset cs fault).start = offset := by
  cases fault <;> rfl

/-- What is `Faulty` stays so when less comes after it. -/
theorem Faulty.of_append {c : Char} {after more : List Char} {fault : LexFault}
    (h : Faulty c (after ++ more) fault) : Faulty c after fault := by
  cases h with
  | unclosed hq hnot => exact .unclosed hq fun hmem => hnot (List.mem_append_left more hmem)
  | half hhalf hhead =>
    refine .half hhalf fun hsame => hhead ?_
    rw [List.head?_append, hsame]
    rfl
  | foreign hforeign => exact .foreign hforeign

/-! ## Where the first fault is -/

/-- A text on which `scan` fails has a place where something is `Faulty`. All before it is read,
whatever comes after it. -/
theorem exists_place_of_scan {offset : Nat} {cs : List Char} {e : LexError}
    (h : scan offset cs = .error e) :
    ∃ before c after ts, cs = before ++ c :: after ∧ isSkippable c = false ∧
      Scanned offset before ts ∧
      (∀ others, scan offset (before ++ c :: others) =
        (scan (offset + byteLength before) (c :: others)).map (ts ++ ·)) ∧
      Faulty c after e.fault ∧
      e.span = faultSpan (offset + byteLength before) (c :: after) e.fault := by
  fun_induction scan offset cs generalizing e with
  | case1 offset => cases h
  -- A character that is dropped goes to what is read before the place.
  | case2 offset c cs hc ih =>
    obtain ⟨before, d, after, ts, rfl, hd, hbefore, hscan, hfaulty, hspan⟩ := ih h
    refine ⟨c :: before, d, after, ts, rfl, hd, .skip hc hbefore, fun others => ?_, hfaulty, ?_⟩
    · rw [List.cons_append, scan_skip hc, hscan, byteLength_cons, Nat.add_assoc]
    · rw [hspan, byteLength_cons, Nat.add_assoc]
  -- The place is here.
  | case3 offset c cs hc fault hl =>
    obtain rfl := Except.error.inj h
    have hc : isSkippable c = false := by simpa using hc
    refine ⟨[], c, cs, [], rfl, hc, .nil, fun others => ?_, (nextLexeme_eq_error_iff hc).1 hl, rfl⟩
    rw [List.nil_append, byteLength_nil, Nat.add_zero]
    cases scan offset (c :: others) <;> rfl
  | case4 offset c cs hc l rest hl _ ih =>
    obtain ⟨before, d, after, ts, rfl, hd, hbefore, hscan, hfaulty, hspan⟩ :=
      ih (map_eq_error_iff.1 h)
    obtain ⟨hform, htext, hhead⟩ := nextLexeme_eq_ok_iff.1 hl
    -- What follows the lexeme begins with the same character, whatever comes after the place.
    have hborder (others : List Char) : ∀ x ∈ (before ++ d :: others).head?, ¬ l.JoinedBy x := by
      cases before <;> exact hhead
    refine ⟨l.text ++ before, d, after, tokenAt offset l :: ts, by rw [htext, List.append_assoc], hd,
      .lexeme hform (forall_head?_of_append hhead) hbefore, fun others => ?_, hfaulty, ?_⟩
    · rw [List.append_assoc, scan_wellFormed hform (hborder others), hscan, byteLength_append,
        Nat.add_assoc]
      cases scan (offset + (byteLength l.text + byteLength before)) (d :: others) <;> rfl
    · rw [hspan, byteLength_append, Nat.add_assoc]

/-! ## The error of a source -/

/-- The text at the place of a fault begins with the character that the fault names. -/
theorem exists_text?_faultSpan {source : String} {before after : List Char} {c : Char}
    {fault : LexFault} (hsource : source.toList = before ++ c :: after)
    (h : Faulty c after fault) :
    ∃ rest, (faultSpan (byteLength before) (c :: after) fault).text? source =
      some (String.ofList (c :: rest)) := by
  cases h with
  | unclosed =>
    rw [← List.append_nil (c :: after)] at hsource
    exact ⟨after, text?_of_append hsource⟩
  | half | foreign =>
    rw [← List.singleton_append] at hsource
    exact ⟨[], text?_of_append hsource⟩

/-- `LexError.diagnostic` ends with the text at the place of the error, if there is some. -/
theorem diagnostic_of_text? {e : LexError} {source : String} {c : Char} {rest : List Char}
    (h : e.span.text? source = some (String.ofList (c :: rest))) :
    e.diagnostic source =
      "error: " ++ e.message ++ " -> `" ++ String.ofList (c :: rest) ++ "`" := by
  have hsome : (String.ofList (c :: rest)).isEmpty = false := by simp
  rw [LexError.diagnostic, h]
  simp only [hsome, Bool.false_eq_true, if_false]

/-- The error of a source stands at the first place from which it cannot be read: a character that
begins no token, or a quote that does not come again. What is before the place can be read by
`tokenize`, and nothing that reaches beyond it. The error covers the character, or from the quote on
all that is left, and the diagnostic ends with the text that it covers. -/
theorem tokenize_fault (source : String) (h : source.utf8ByteSize ≤ offsetLimit) (e : LexError)
    (he : tokenize source = .error e) :
    ∃ before c after, source.toList = before ++ c :: after ∧
      byteLength before = e.span.start ∧
      (∃ ts, tokenize (String.ofList before) = .ok ts) ∧
      (∀ more, more <+: after → ∃ e', tokenize (String.ofList (before ++ c :: more)) = .error e') ∧
      ((e.fault = .unrecognizedCharacter c ∧ e.span.stop = e.span.start + c.utf8Size ∧
          (c ∈ ['&', '|'] ∧ after.head? ≠ some c ∨ Foreign c)) ∨
        (e.fault = .unterminatedString c ∧ e.span.stop = source.utf8ByteSize ∧
          c ∈ ['"', '\''] ∧ c ∉ after)) ∧
      ∃ rest, e.span.text? source = some (String.ofList (c :: rest)) ∧
        e.diagnostic source =
          "error: " ++ e.message ++ " -> `" ++ String.ofList (c :: rest) ++ "`" := by
  obtain ⟨before, c, after, ts, hsource, hc, hbefore, hscan, hfaulty, hspan⟩ :=
    exists_place_of_scan ((tokenize_eq_error_iff h).1 he)
  rw [Nat.zero_add] at hspan
  have hsize : source.utf8ByteSize = byteLength before + byteLength (c :: after) := by
    rw [Text.utf8ByteSize_eq, hsource, byteLength_append]
  have hstart : e.span.start = byteLength before := by rw [hspan, start_faultSpan]
  refine ⟨before, c, after, hsource, hstart.symm, ?_, ?_, ?_, ?_⟩
  -- What comes before the place is a text that is read to its end.
  · have hshort : (String.ofList before).utf8ByteSize ≤ offsetLimit := by
      rw [Text.utf8ByteSize_ofList]
      omega
    refine ⟨_, (tokenize_eq_ok_iff hshort).2 ⟨ts, ?_, rfl⟩⟩
    rwa [String.toList_ofList]
  · rintro more ⟨rest, rfl⟩
    have hshort : (String.ofList (before ++ c :: more)).utf8ByteSize ≤ offsetLimit := by
      rw [Text.utf8ByteSize_ofList]
      simp only [byteLength_append, byteLength_cons] at hsize ⊢
      omega
    -- The fault is there whatever is left out behind it.
    have hfails := (nextLexeme_eq_error_iff hc).2 hfaulty.of_append
    have hfault : scan 0 (String.ofList (before ++ c :: more)).toList =
        .error ⟨e.fault, faultSpan (0 + byteLength before) (c :: more) e.fault⟩ := by
      rw [String.toList_ofList, hscan, scan_fault hc hfails]
      rfl
    exact ⟨_, (tokenize_eq_error_iff hshort).2 hfault⟩
  -- The kind of the fault says what its span covers.
  · generalize e.fault = fault at hfaulty hspan
    rw [hspan]
    cases hfaulty with
    | unclosed hq hnot => exact .inr ⟨rfl, hsize.symm, hq, hnot⟩
    | half hhalf hhead => exact .inl ⟨rfl, rfl, .inl ⟨hhalf, hhead⟩⟩
    | foreign hforeign => exact .inl ⟨rfl, rfl, .inr hforeign⟩
  · obtain ⟨rest, htext⟩ := exists_text?_faultSpan hsource hfaulty
    rw [← hspan] at htext
    exact ⟨rest, htext, diagnostic_of_text? htext⟩

/-- An operator that is only half there, after a string with a character of two bytes. -/
theorem tokenize_fault_half :
    "'é' & x".utf8ByteSize ≤ offsetLimit ∧
    tokenize "'é' & x" = .error ⟨.unrecognizedCharacter '&', ⟨5, 6⟩⟩ ∧
    (∃ ts, tokenize "'é' " = .ok ts) ∧ (∃ e, tokenize "'é' & " = .error e) ∧
    ∃ rest, (Span.mk 5 6).text? "'é' & x" = some (String.ofList ('&' :: rest)) := by
  have hsize : "'é' & x".utf8ByteSize ≤ offsetLimit := by decide
  have herror : tokenize "'é' & x" = .error ⟨.unrecognizedCharacter '&', ⟨5, 6⟩⟩ := by cbv
  obtain ⟨before, c, after, hsource, hstart, hread, hlonger, -, rest, htext, -⟩ :=
    tokenize_fault _ hsize _ herror
  -- The source can be cut in one way only where the error begins.
  have hcut : ['\'', 'é', '\'', ' '] ++ '&' :: [' ', 'x'] = before ++ c :: after := hsource
  obtain ⟨rfl, hrest⟩ := Text.append_inj_byteLength hcut hstart.symm
  obtain ⟨rfl, rfl⟩ := List.cons.inj hrest
  exact ⟨hsize, herror, hread, hlonger [' '] ⟨['x'], rfl⟩, rest, htext⟩

end ScriptCore.Lexer
