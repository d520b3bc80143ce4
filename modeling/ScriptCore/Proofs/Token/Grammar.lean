import ScriptCore.Proofs.Token.Scan

/-!
# The grammar of sources

A source can be cut into lexemes and skippable characters, often in several ways: `+++` is `++` and
`+`, or `+` and `++`, or three times `+`.  The grammar here says what a cut is without saying how to
find one, and which cut is greedy: it takes the longest lexeme at every place.

* `Cuttable.of_append`: a text that has a cut can spare what makes a lexeme longer;
* `exists_scan_of_cuttable`: so the lexer, which is greedy, finds a cut if there is any;
* `exists_greedyCut_of_scanned`: it finds the greedy one;
* `IsGreedyCut.unique`: there is no other.
-/

namespace ScriptCore.Grammar

open Text (byteLength)
open Lexer (isQuote)

/-! ## Lexemes and cuts -/

/-- The spellings of punctuation and operators. -/
def spellings : List (List Char) :=
  [['('], [')'], ['{'], ['}'], ['['], [']'], [','], ['.'], [':'], [';'],
   ['+'], ['-'], ['*'], ['/'], ['%'], ['^'], ['='], ['!'], ['<'], ['>'],
   ['+', '+'], ['+', '='], ['-', '-'], ['-', '='], ['*', '='], ['/', '='], ['^', '='],
   ['=', '='], ['!', '='], ['<', '='], ['>', '='], ['&', '&'], ['|', '|']]

/-- The texts that are one token each. -/
inductive IsLexeme : List Char → Prop where
  | spelling {text : List Char} : text ∈ spellings → IsLexeme text
  | digits {text : List Char} : text ≠ [] → (∀ c ∈ text, c.isDigit) → IsLexeme text
  | letters {text : List Char} : text ≠ [] → (∀ c ∈ text, isLetter c) → IsLexeme text
  | quoted {quote : Char} {content : List Char} : quote ∈ ['"', '\''] → quote ∉ content →
      IsLexeme (quote :: content ++ [quote])

/-- A piece of a cut. -/
inductive Piece where
  | gap (c : Char)
  | lexeme (text : List Char)

namespace Piece

/-- The characters of a `Piece`. -/
def text : Piece → List Char
  | gap c => [c]
  | lexeme text => text

/-- A `gap` is a skippable character, and a `lexeme` is what `IsLexeme` says. -/
def Valid : Piece → Prop
  | gap c => isSkippable c
  | lexeme text => IsLexeme text

end Piece

/-- The text of a list of pieces. -/
def spelled (pieces : List Piece) : List Char := pieces.flatMap Piece.text

/-- A text is cut into lexemes and single skippable characters. -/
structure IsCut (cs : List Char) (pieces : List Piece) : Prop where
  valid : ∀ p ∈ pieces, p.Valid
  spelled_eq : spelled pieces = cs

/-- A lexeme at the front of a text, and no longer one is there. -/
structure IsLongest (text cs : List Char) : Prop where
  isLexeme : IsLexeme text
  front : text <+: cs
  longest : ∀ other, IsLexeme other → other <+: cs → other.length ≤ text.length

/-- Every lexeme is the longest one in its place. -/
def Greedy : List Piece → Prop
  | [] => True
  | .gap _ :: pieces => Greedy pieces
  | .lexeme text :: pieces => IsLongest text (text ++ spelled pieces) ∧ Greedy pieces

/-- The lexemes of a cut, each with the span it covers if the first piece begins at an offset. -/
def located (offset : Nat) : List Piece → List (Span × String)
  | [] => []
  | .gap c :: pieces => located (offset + c.utf8Size) pieces
  | .lexeme text :: pieces =>
    (⟨offset, offset + byteLength text⟩, String.ofList text) ::
      located (offset + byteLength text) pieces

/-! ## The lexemes of the grammar are those of the lexer -/

/-- Each of the `spellings` is that of a symbol, alone or with a second character. -/
private theorem spellings_symbols : ∀ text ∈ spellings, ∃ s ∈ symbols,
    (text = [s.first] ∧ s.alone.isSome) ∨ ∃ p ∈ s.pairs, text = [s.first, p.1] := by
  decide

/-- All that is listed in `symbols` is among the `spellings`. -/
private theorem symbols_spellings : ∀ s ∈ symbols,
    (s.alone.isSome → [s.first] ∈ spellings) ∧ ∀ p ∈ s.pairs, [s.first, p.1] ∈ spellings := by
  decide

/-- `IsLexeme` says of texts what `Lexeme.WellFormed` says of lexemes. -/
theorem isLexeme_iff {text : List Char} :
    IsLexeme text ↔ ∃ l : Lexeme, l.WellFormed ∧ l.text = text := by
  constructor
  · intro h
    cases h with
    | spelling hmem =>
      obtain ⟨s, hs, ⟨rfl, halone⟩ | ⟨⟨second, kind⟩, hp, rfl⟩⟩ := spellings_symbols _ hmem
      · obtain ⟨kind, hkind⟩ := Option.isSome_iff_exists.1 halone
        exact ⟨_, .alone hs hkind, rfl⟩
      · exact ⟨_, .pair hs hp, rfl⟩
    | digits hne hall => exact ⟨_, .number hne hall, rfl⟩
    | letters hne hall => exact ⟨_, .word hne hall, rfl⟩
    | quoted hq hnot => exact ⟨_, .string (by simpa [isQuote] using hq) hnot, rfl⟩
  · rintro ⟨l, hl, rfl⟩
    cases hl with
    | alone hs halone => exact .spelling ((symbols_spellings _ hs).1 (by simp [halone]))
    | pair hs hp => exact .spelling ((symbols_spellings _ hs).2 _ hp)
    | number hne hall => exact .digits hne hall
    | word hne hall => exact .letters hne hall
    | string hq hnot => exact .quoted (by simpa [isQuote] using hq) hnot

/-- An `IsLexeme` has at least one character. -/
theorem IsLexeme.ne_nil {text : List Char} (h : IsLexeme text) : text ≠ [] := by
  obtain ⟨l, hl, rfl⟩ := isLexeme_iff.1 h
  exact hl.text_ne_nil

/-- An `IsLexeme` does not begin with a skippable character, so it cannot be mistaken for a `gap`.
-/
theorem IsLexeme.isSkippable_head {c : Char} {cs : List Char} (h : IsLexeme (c :: cs)) :
    isSkippable c = false := by
  obtain ⟨l, hl, htext⟩ := isLexeme_iff.1 h
  exact hl.isSkippable_head htext

/-! ## What a cut can spare -/

/-- A text that has some cut. -/
def Cuttable (cs : List Char) : Prop := ∃ pieces, IsCut cs pieces

/-- The empty text has the empty cut. -/
theorem Cuttable.nil : Cuttable [] := ⟨[], by simp, rfl⟩

/-- A cut goes on in front. -/
theorem Cuttable.lexeme {text cs : List Char} (ht : IsLexeme text) (h : Cuttable cs) :
    Cuttable (text ++ cs) := by
  obtain ⟨pieces, hvalid, rfl⟩ := h
  exact ⟨.lexeme text :: pieces, List.forall_mem_cons.2 ⟨ht, hvalid⟩, rfl⟩

/-- A `Cuttable` text is empty, or begins with a skippable character or with a lexeme. -/
theorem Cuttable.cases {cs : List Char} (h : Cuttable cs) :
    cs = [] ∨ (∃ c rest, cs = c :: rest ∧ isSkippable c ∧ Cuttable rest) ∨
    ∃ text rest, cs = text ++ rest ∧ IsLexeme text ∧ Cuttable rest := by
  obtain ⟨pieces, hvalid, rfl⟩ := h
  cases pieces with
  | nil => exact .inl rfl
  | cons p pieces =>
    -- The first piece says which of the two it is.
    obtain ⟨hp, hpieces⟩ := List.forall_mem_cons.1 hvalid
    have hrest : Cuttable (spelled pieces) := ⟨pieces, hpieces, rfl⟩
    cases p with
    | gap c => exact .inr (.inl ⟨c, _, rfl, hp, hrest⟩)
    | lexeme text => exact .inr (.inr ⟨text, _, rfl, hp, hrest⟩)

/-- A character that can be taken off the front of any lexeme: what is left is again a lexeme or
nothing.  Quotes cannot, nor the two characters that stand only in pairs. -/
def Spare (c : Char) : Prop := c ∉ ['"', '\'', '&', '|']

/-- Of `spellings` that do not begin with one of the two characters, nothing or a spelling is left
without the first one. -/
private theorem spellings_tail : ∀ text ∈ spellings, text.head? ∉ [some '&', some '|'] →
    text.tail = [] ∨ text.tail ∈ spellings := by
  decide

/-- An `IsLexeme` without a `Spare` first character is empty or again an `IsLexeme`. -/
theorem IsLexeme.tail {c : Char} {cs : List Char} (h : IsLexeme (c :: cs)) (hc : Spare c) :
    cs = [] ∨ IsLexeme cs := by
  cases cs with
  | nil => exact .inl rfl
  | cons d cs =>
    right
    generalize htext : c :: d :: cs = text at h
    cases h with
    | spelling hmem =>
      have htail := spellings_tail _ hmem
      simp only [← htext, List.head?_cons, List.tail_cons] at htail
      exact .spelling (by simpa using htail (by simp_all [Spare]))
    | digits _ hall =>
      rw [← htext] at hall
      exact .digits (by simp) (List.forall_mem_cons.1 hall).2
    | letters _ hall =>
      rw [← htext] at hall
      exact .letters (by simp) (List.forall_mem_cons.1 hall).2
    -- A string begins with a quote, which is not spare.
    | quoted hq _ =>
      obtain ⟨rfl, _⟩ := List.cons.inj htext
      simp only [Spare] at hc
      grind

/-- A `Cuttable` text still has a cut without a `Spare` first character. -/
theorem Cuttable.tail {c : Char} {cs : List Char} (h : Cuttable (c :: cs)) (hc : Spare c) :
    Cuttable cs := by
  rcases h.cases with h | ⟨d, rest, h, _, hrest⟩ | ⟨text, rest, h, htext, hrest⟩
  · exact nomatch h
  · obtain ⟨rfl, rfl⟩ := List.cons.inj h
    exact hrest
  -- What is left of the first lexeme is one, or nothing.
  · cases text with
    | nil => exact absurd rfl htext.ne_nil
    | cons d ds =>
      obtain ⟨rfl, rfl⟩ := List.cons.inj h
      rcases htext.tail hc with rfl | hds
      · exact hrest
      · exact hrest.lexeme hds

/-- A `Cuttable` text still has a cut without any number of `Spare` characters. -/
theorem Cuttable.of_append {front cs : List Char} (h : Cuttable (front ++ cs))
    (hfront : ∀ c ∈ front, Spare c) : Cuttable cs := by
  induction front with
  | nil => exact h
  | cons c front ih =>
    obtain ⟨hc, hrest⟩ := List.forall_mem_cons.1 hfront
    exact ih (h.tail hc) hrest

/-! ## What the lexer may take on top of a shorter lexeme -/

/-- After the first character of a spelling all are `Spare`, but for the two that stand only in
pairs. -/
private theorem spellings_spare : ∀ text ∈ spellings,
    (text.tail.all fun c => c ∉ ['"', '\'', '&', '|']) ∨ text ∈ [['&', '&'], ['|', '|']] := by
  decide

/-- The characters that stand only in pairs are no lexeme. -/
private theorem not_isLexeme_single {c : Char} (hc : c ∈ ['&', '|']) : ¬ IsLexeme [c] := by
  intro h
  obtain ⟨l, hl, htext⟩ := isLexeme_iff.1 h
  have hread := hl.nextLexeme_text htext
  simp only [List.mem_cons, List.not_mem_nil, or_false] at hc
  rcases hc with rfl | rfl <;> exact nomatch hread

/-- Digits are `Spare`. -/
private theorem spare_of_isDigit {c : Char} (h : c.isDigit) : Spare c := by
  intro hc
  simp only [List.mem_cons, List.not_mem_nil, or_false] at hc
  rcases hc with rfl | rfl | rfl | rfl <;> exact absurd h (by decide)

/-- Letters are `Spare`. -/
private theorem spare_of_isLetter {c : Char} (h : isLetter c) : Spare c := by
  intro hc
  simp only [List.mem_cons, List.not_mem_nil, or_false] at hc
  rcases hc with rfl | rfl | rfl | rfl <;> exact absurd h (by decide)

/-- An `IsLexeme` that begins with a quote has that quote only at its two ends. -/
private theorem IsLexeme.eq_quoted {quote : Char} {cs : List Char} (h : IsLexeme (quote :: cs))
    (hq : quote ∈ ['"', '\'']) : ∃ content, quote ∉ content ∧ cs = content ++ [quote] := by
  have hquote : isQuote quote := by simpa [isQuote] using hq
  obtain ⟨l, hl, htext⟩ := isLexeme_iff.1 h
  have hread := hl.nextLexeme_text htext
  rw [Lexer.nextLexeme_of_isQuote hquote] at hread
  obtain ⟨content, hnot, hcs, _⟩ := Lexer.stringLexeme_eq_ok_iff.1 hread
  exact ⟨content, hnot, hcs⟩

/-- What makes a longer lexeme of a lexeme is `Spare`. -/
theorem IsLexeme.spare_of_append {text more : List Char} (ht : IsLexeme text)
    (h : IsLexeme (text ++ more)) : ∀ c ∈ more, Spare c := by
  intro c hc
  obtain ⟨first, others, rfl⟩ := List.exists_cons_of_ne_nil ht.ne_nil
  generalize hlonger : first :: others ++ more = longer at h
  cases h with
  | spelling hmem =>
    have hsecond : c ∈ longer.tail := by simp [← hlonger, hc]
    rcases spellings_spare _ hmem with hspare | hpair
    · have hout := List.all_eq_true.1 hspare c hsecond
      rw [Spare]
      exact of_decide_eq_true hout
    · -- Only one character of the pair would be left, which is no lexeme.
      obtain ⟨d, hd, rfl⟩ : ∃ d ∈ ['&', '|'], longer = [d, d] := by simpa using hpair
      obtain ⟨rfl, hothers⟩ := List.cons.inj hlonger
      cases others with
      | nil => exact absurd ht (not_isLexeme_single hd)
      | cons e others => simp_all
  -- Longer numbers and words go on with digits and letters.
  | digits _ hall => exact spare_of_isDigit (hall c (by simp [← hlonger, hc]))
  | letters _ hall => exact spare_of_isLetter (hall c (by simp [← hlonger, hc]))
  | @quoted quote content hq hnot =>
    obtain ⟨rfl, _⟩ := List.cons.inj hlonger
    obtain ⟨content', hnot', rfl⟩ := ht.eq_quoted hq
    have hquote : isQuote first := by simpa [isQuote] using hq
    -- The quote that closes the shorter string ends it whatever comes next.
    cases more with
    | nil => cases hc
    | cons d ds =>
      have hjoined := Lexeme.WellFormed.joinedBy_of_text_eq (.string hquote hnot')
        (.string hquote hnot) hlonger.symm
      exact absurd hjoined (Lexeme.not_joinedBy_string _ _ _)

/-! ## The lexer finds a cut -/

/-- If a text is `Cuttable`, `scan` reads it to the end: whatever it takes beyond the first lexeme
of the cut can be spared by the rest. -/
theorem exists_scan_of_cuttable {cs : List Char} (h : Cuttable cs) (offset : Nat) :
    ∃ ts, Lexer.scan offset cs = .ok ts := by
  -- The induction is on the length: what is left to read is not the rest of the cut.
  induction hn : cs.length using Nat.strongRecOn generalizing cs offset with
  | ind n ih =>
    subst hn
    rcases h.cases with rfl | ⟨c, rest, rfl, hc, hrest⟩ | ⟨text, rest, rfl, htext, hrest⟩
    · exact ⟨[], Lexer.scan_nil offset⟩
    · rw [Lexer.scan_skip hc]
      exact ih rest.length (by simp) hrest _ rfl
    · obtain ⟨l', hl', rfl⟩ := isLexeme_iff.1 htext
      obtain ⟨c, cs, hcons⟩ := List.exists_cons_of_ne_nil hl'.text_ne_nil
      have hcs : c :: (cs ++ rest) = l'.text ++ rest := by rw [hcons, List.cons_append]
      obtain ⟨⟨l, after⟩, hread⟩ := Lexer.exists_nextLexeme hl' hcs
      obtain ⟨hl, hltext, hhead⟩ := Lexer.nextLexeme_eq_ok_iff.1 hread
      have hsame : l.text ++ after = l'.text ++ rest := hltext.symm.trans hcs
      -- The lexer takes the longest lexeme: the one of the cut, and `more`.
      have hlen := hl.length_le hhead hl' ⟨rest, hsame.symm⟩
      obtain ⟨more, hmore⟩ : l'.text <+: l.text :=
        List.prefix_of_prefix_length_le ⟨rest, rfl⟩ ⟨after, hsame⟩ hlen
      have hafter : rest = more ++ after := by
        rw [← hmore, List.append_assoc, List.append_cancel_left_eq] at hsame
        exact hsame.symm
      have hspare := htext.spare_of_append (hmore.symm ▸ isLexeme_iff.2 ⟨l, hl, rfl⟩)
      have hcut : Cuttable after := (hafter ▸ hrest).of_append hspare
      -- The lexeme that was taken is not empty, so there is less to read.
      have hlt : after.length < (l'.text ++ rest).length := by
        have := List.length_pos_iff.2 hl.text_ne_nil
        rw [← hsame, List.length_append]
        omega
      obtain ⟨ts, hts⟩ := ih after.length hlt hcut (offset + byteLength l.text) rfl
      exact ⟨_, by rw [← hsame, Lexer.scan_wellFormed hl hhead, hts]; rfl⟩

/-! ## The greedy cut -/

/-- The cut that takes the longest lexeme at every place. -/
structure IsGreedyCut (cs : List Char) (pieces : List Piece) : Prop extends IsCut cs pieces where
  greedy : Greedy pieces

/-- A text has one `IsGreedyCut` at most: in each place a skippable character or a longest lexeme
can stand, but not both, and two longest lexemes are the same. -/
theorem IsGreedyCut.unique {cs : List Char} {pieces others : List Piece}
    (h : IsGreedyCut cs pieces) (h' : IsGreedyCut cs others) : others = pieces := by
  obtain ⟨⟨hvalid, rfl⟩, hgreedy⟩ := h
  obtain ⟨⟨hvalid', hsame⟩, hgreedy'⟩ := h'
  induction pieces generalizing others with
  | nil =>
    cases others with
    | nil => rfl
    | cons q others =>
      -- A piece has a character, so the other cut has none either.
      have hq := hvalid' q (List.mem_cons_self ..)
      cases q with
      | gap c => exact nomatch hsame
      | lexeme text => exact absurd (List.append_eq_nil_iff.1 hsame).1 hq.ne_nil
  | cons p pieces ih =>
    obtain ⟨hp, hpieces⟩ := List.forall_mem_cons.1 hvalid
    cases others with
    | nil =>
      cases p with
      | gap c => exact nomatch hsame
      | lexeme text => exact absurd (List.append_eq_nil_iff.1 hsame.symm).1 hp.ne_nil
    | cons q others =>
      obtain ⟨hq, hothers⟩ := List.forall_mem_cons.1 hvalid'
      cases p with
      | gap c =>
        cases q with
        | gap d =>
          obtain ⟨rfl, hrest⟩ := List.cons.inj hsame
          obtain rfl : others = pieces := ih hgreedy hpieces hgreedy' hothers hrest
          rfl
        | lexeme text =>
          -- One character would be skippable and begin a lexeme.
          obtain ⟨d, ds, rfl⟩ := List.exists_cons_of_ne_nil hq.ne_nil
          obtain ⟨rfl, _⟩ := List.cons.inj hsame
          exact nomatch hp.symm.trans hq.isSkippable_head
      | lexeme text =>
        cases q with
        | gap d =>
          obtain ⟨c, cs, rfl⟩ := List.exists_cons_of_ne_nil hp.ne_nil
          obtain ⟨rfl, _⟩ := List.cons.inj hsame
          exact nomatch hq.symm.trans hp.isSkippable_head
        | lexeme text' =>
          obtain ⟨hlongest, hgreedy⟩ := hgreedy
          obtain ⟨hlongest', hgreedy'⟩ := hgreedy'
          -- Both lexemes stand at the front of the same text, so neither is longer.
          have hspelled : text' ++ spelled others = text ++ spelled pieces := hsame
          have hle := hlongest.longest text' hq (hspelled ▸ List.prefix_append _ _)
          have hge := hlongest'.longest text hp (hspelled.symm ▸ List.prefix_append _ _)
          obtain ⟨rfl, hrest⟩ := List.append_inj hspelled (by omega)
          obtain rfl : others = pieces := ih hgreedy hpieces hgreedy' hothers hrest
          rfl

/-- The tokens that are `Scanned` from a text are the lexemes of its greedy cut, each in its place.
The text stands in a source, and `before` is what comes before it. -/
theorem exists_greedyCut_of_scanned {source : String} (before : List Char) {cs : List Char}
    {offset : Nat} {ts : List Token} (h : Lexer.Scanned offset cs ts)
    (hsource : source.toList = before ++ cs) (hoffset : byteLength before = offset) :
    ∃ pieces, IsGreedyCut cs pieces ∧
      ts.map (fun t => (t.span, t.span.text? source)) =
        (located offset pieces).map fun p => (p.1, some p.2) := by
  induction h generalizing before with
  | nil => exact ⟨[], ⟨⟨by simp, rfl⟩, trivial⟩, rfl⟩
  | @skip offset c cs ts hc _ ih =>
    obtain ⟨pieces, ⟨⟨hvalid, rfl⟩, hgreedy⟩, hts⟩ := ih (before ++ [c])
      (by simp [hsource]) (by simp [hoffset])
    exact ⟨.gap c :: pieces, ⟨⟨List.forall_mem_cons.2 ⟨hc, hvalid⟩, rfl⟩, hgreedy⟩, hts⟩
  | @lexeme offset l rest ts hl hhead _ ih =>
    obtain ⟨pieces, ⟨⟨hvalid, rfl⟩, hgreedy⟩, hts⟩ := ih (before ++ l.text)
      (by simp [hsource]) (by simp [hoffset])
    have hlexeme : IsLexeme l.text := isLexeme_iff.2 ⟨l, hl, rfl⟩
    -- The lexer took the longest one, by `length_le`.
    have hlongest : IsLongest l.text (l.text ++ spelled pieces) :=
      ⟨hlexeme, List.prefix_append _ _, fun other hother hfront => by
        obtain ⟨l', hl', rfl⟩ := isLexeme_iff.1 hother
        exact hl.length_le hhead hl' hfront⟩
    refine ⟨.lexeme l.text :: pieces,
      ⟨⟨List.forall_mem_cons.2 ⟨hlexeme, hvalid⟩, rfl⟩, hlongest, hgreedy⟩, ?_⟩
    -- The span of the token cuts its text out of the source.
    have htext : (Lexer.tokenAt offset l).span.text? source = some (String.ofList l.text) := by
      subst hoffset
      rw [Lexer.tokenAt, Span.text?, hsource, Text.slice?_append]
      rfl
    rw [List.map_cons, hts, htext]
    rfl

/-! ## Sources -/

/-- `tokenize` finds a cut exactly if there is one, and finds the greedy one: the tokens before the
end are its lexemes, in their places. If there is none, it fails. -/
theorem tokenize_iff_cut (source : String) (h : source.utf8ByteSize ≤ offsetLimit) :
    ((∃ ts, tokenize source = .ok ts) ↔ ∃ pieces, IsCut source.toList pieces) ∧
    (∀ ts, tokenize source = .ok ts → ∃ pieces, IsGreedyCut source.toList pieces ∧
      (∀ others, IsGreedyCut source.toList others → others = pieces) ∧
      (ts.toList.filter (!·.isEof)).map (fun t => (t.span, t.span.text? source)) =
        (located 0 pieces).map fun p => (p.1, some p.2)) ∧
    ((¬ ∃ pieces, IsCut source.toList pieces) → ∃ e, tokenize source = .error e) := by
  have hok : (∃ ts, tokenize source = .ok ts) ↔ ∃ pieces, IsCut source.toList pieces := by
    constructor
    · rintro ⟨ts, hts⟩
      obtain ⟨body, hbody, _⟩ := (Lexer.tokenize_eq_ok_iff h).1 hts
      obtain ⟨pieces, hcut, _⟩ := exists_greedyCut_of_scanned [] hbody rfl rfl
      exact ⟨pieces, hcut.toIsCut⟩
    · intro hcut
      obtain ⟨body, hbody⟩ := exists_scan_of_cuttable hcut 0
      exact ⟨_, (Lexer.tokenize_eq_ok_iff h).2 ⟨body, Lexer.scan_eq_ok_iff.1 hbody, rfl⟩⟩
  refine ⟨hok, fun ts hts => ?_, fun hnone => ?_⟩
  · obtain ⟨body, hbody, rfl⟩ := (Lexer.tokenize_eq_ok_iff h).1 hts
    obtain ⟨pieces, hcut, hplaces⟩ := exists_greedyCut_of_scanned [] hbody rfl rfl
    refine ⟨pieces, hcut, fun others hothers => hcut.unique hothers, ?_⟩
    rw [← hplaces, hbody.filter_isEof]
  · cases hts : tokenize source with
    | ok ts => exact absurd (hok.1 ⟨ts, hts⟩) hnone
    | error e => exact ⟨e, rfl⟩

/-- A source can be read whose first cut to come to mind is not the one that is found. -/
theorem tokenize_plus_signs :
    "+++'|'".utf8ByteSize ≤ offsetLimit ∧ ∃ ts, tokenize "+++'|'" = .ok ts := by
  refine ⟨by decide, (tokenize_iff_cut "+++'|'" (by decide)).1.2
    ⟨[.lexeme ['+'], .lexeme ['+', '+'], .lexeme ['\'', '|', '\'']], ?_, by rfl⟩⟩
  have hquoted : IsLexeme ['\'', '|', '\''] :=
    @IsLexeme.quoted '\'' ['|'] (by decide) (by decide)
  simpa [Piece.Valid] using
    ⟨IsLexeme.spelling (by decide), IsLexeme.spelling (by decide), hquoted⟩

end ScriptCore.Grammar
