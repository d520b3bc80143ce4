import Mathlib
import ScriptCore.Token.Lexer

/-!
# What the lexer takes for a token

`Lexeme.WellFormed` says what a lexeme is, and `Lexeme.JoinedBy` which next character would make a
longer lexeme of it, both without the lexer.  The main result is

* `nextLexeme_eq_ok_iff`: the lexer takes a lexeme off the front of a text exactly if the lexeme is
  well formed, stands there, and is not joined by the character after it.

So a lexeme is determined by its text (`WellFormed.eq_of_text_eq`), no longer one stands at the same
place (`WellFormed.length_le`), and only the first character of what comes after it matters.
-/

namespace ScriptCore

/-- Whether the kind is punctuation or an operator. -/
def Kind.isSymbol : Kind → Bool
  | number | identifier | string | eof => false
  | k => !k.isKeyword

/-- The kind of an `isSymbol` is none of those that runs of characters have. -/
theorem Kind.ne_of_isSymbol {k : Kind} (h : k.isSymbol) :
    k ≠ .number ∧ k ≠ .identifier ∧ k ≠ .string ∧ k ≠ .eof ∧ k.isKeyword = false := by
  cases k <;> simp_all [isSymbol, isKeyword]

/-! ## Classes of characters -/

namespace Lexer

/-- `List.lookup` fails for the characters that are not listed. -/
theorem lookup_eq_none_iff_notMem {pairs : List (Char × Kind)} {c : Char} :
    pairs.lookup c = none ↔ c ∉ pairs.map Prod.fst := by
  rw [List.lookup_eq_none_iff]
  constructor
  · intro hall hmem
    obtain ⟨p, hp, rfl⟩ := List.mem_map.1 hmem
    simpa using hall p hp
  · intro hnot p hp
    rw [bne_iff_ne]
    rintro rfl
    exact hnot (List.mem_map_of_mem hp)

/-- What `List.lookup` finds is listed. -/
private theorem mem_of_lookup {pairs : List (Char × Kind)} {c : Char} {kind : Kind}
    (h : pairs.lookup c = some kind) : (c, kind) ∈ pairs := by
  obtain ⟨before, after, rfl, _⟩ := List.lookup_eq_some_iff.1 h
  simp

/-- `symbols` begin with characters that begin nothing else. -/
private theorem symbols_first : ∀ s ∈ symbols, isQuote s.first = false ∧
    s.first.isDigit = false ∧ isLetter s.first = false ∧ isSkippable s.first = false := by
  decide

/-- All kinds in the table of `symbols` are kinds of symbols. -/
private theorem symbols_kinds : ∀ s ∈ symbols,
    (∀ k ∈ s.alone, k.isSymbol) ∧ ∀ p ∈ s.pairs, p.2.isSymbol := by
  decide

/-- Each first character is listed once in `symbols`. -/
private theorem symbols_nodup : (symbols.map Symbol.first).Nodup := by
  decide

/-- Each second character is listed once in the `pairs` of a symbol. -/
private theorem symbols_pairs :
    ∀ s ∈ symbols, ∀ p ∈ s.pairs, s.pairs.lookup p.1 = some p.2 := by
  decide

/-- A symbol does not begin with a quote, so `nextLexeme` does not read a string there. -/
theorem isQuote_first {s : Symbol} (h : s ∈ symbols) : isQuote s.first = false :=
  (symbols_first s h).1

/-- A symbol does not begin with a digit. -/
theorem isDigit_first {s : Symbol} (h : s ∈ symbols) : s.first.isDigit = false :=
  (symbols_first s h).2.1

/-- A symbol does not begin with a letter. -/
theorem isLetter_first {s : Symbol} (h : s ∈ symbols) : isLetter s.first = false :=
  (symbols_first s h).2.2.1

/-- A symbol does not begin with a character that `step` drops. -/
theorem isSkippable_first {s : Symbol} (h : s ∈ symbols) : isSkippable s.first = false :=
  (symbols_first s h).2.2.2

/-- What a symbol is `alone` is a symbol. -/
theorem isSymbol_alone {s : Symbol} {kind : Kind} (hs : s ∈ symbols) (h : s.alone = some kind) :
    kind.isSymbol :=
  (symbols_kinds s hs).1 kind h

/-- What a symbol is with a second character is a symbol. -/
theorem isSymbol_pair {s : Symbol} {second : Char} {kind : Kind} (hs : s ∈ symbols)
    (h : (second, kind) ∈ s.pairs) : kind.isSymbol :=
  (symbols_kinds s hs).2 _ h

/-- `symbol?` finds symbols in the table. -/
theorem mem_of_symbol? {c : Char} {s : Symbol} (h : symbol? c = some s) : s ∈ symbols :=
  List.mem_of_find?_eq_some h

/-- No two symbols begin with the same character, so `symbol?` finds the one that does. -/
theorem symbol?_first {s : Symbol} (h : s ∈ symbols) : symbol? s.first = some s := by
  cases hfind : symbol? s.first with
  | none =>
    have hnone := List.find?_eq_none.1 hfind s h
    exact absurd (beq_self_eq_true s.first) hnone
  | some s' =>
    have hfirst : s'.first = s.first := first_of_symbol? hfind
    rw [List.inj_on_of_nodup_map symbols_nodup (mem_of_symbol? hfind) h hfirst]

/-- There are two quotes. -/
theorem eq_of_isQuote {c : Char} (h : isQuote c) : c = '"' ∨ c = '\'' := by
  simpa [isQuote] using h

/-- A quote does not begin a number. -/
theorem isDigit_of_isQuote {c : Char} (h : isQuote c) : c.isDigit = false := by
  rcases eq_of_isQuote h with rfl | rfl <;> decide

/-- A quote does not begin a word. -/
theorem isLetter_of_isQuote {c : Char} (h : isQuote c) : isLetter c = false := by
  rcases eq_of_isQuote h with rfl | rfl <;> decide

/-- A quote is not dropped. -/
theorem isSkippable_of_isQuote {c : Char} (h : isQuote c) : isSkippable c = false := by
  rcases eq_of_isQuote h with rfl | rfl <;> decide

/-- No letter of the first 128 characters is a digit, so `isDigit` and `isLetter` exclude each
other. -/
theorem isLetter_of_isDigit {c : Char} (h : c.isDigit) : isLetter c = false := by
  have hd : 48 ≤ c.toNat ∧ c.toNat ≤ 57 := Char.isDigit_iff_toNat.1 h
  -- Both halves of `Char.isAlpha` lie above the digits.
  have hup : c.isUpper = false := by
    simp [Char.isUpper, UInt32.le_iff_toNat_le]
    omega
  have hlow : c.isLower = false := by
    simp [Char.isLower, UInt32.le_iff_toNat_le]
    omega
  rw [isLetter, if_pos (by omega), Char.isAlpha, hup, hlow, Bool.or_false]

/-- Four characters are dropped between tokens. -/
theorem eq_of_isSkippable {c : Char} (h : isSkippable c) :
    c = ' ' ∨ c = '\t' ∨ c = '\n' ∨ c = '\r' := by
  simpa [isSkippable, or_assoc] using h

/-- What is dropped does not begin a number. -/
theorem isDigit_of_isSkippable {c : Char} (h : isSkippable c) : c.isDigit = false := by
  rcases eq_of_isSkippable h with rfl | rfl | rfl | rfl <;> decide

/-- What is dropped does not begin a word. -/
theorem isLetter_of_isSkippable {c : Char} (h : isSkippable c) : isLetter c = false := by
  rcases eq_of_isSkippable h with rfl | rfl | rfl | rfl <;> decide

/-- The first branch of `nextLexeme` that fits is the only one: digits are no quotes. -/
theorem isQuote_of_isDigit {c : Char} (h : c.isDigit) : isQuote c = false := by
  cases hq : isQuote c with
  | false => rfl
  | true => exact nomatch h.symm.trans (isDigit_of_isQuote hq)

/-- Letters are no quotes. -/
theorem isQuote_of_isLetter {c : Char} (h : isLetter c) : isQuote c = false := by
  cases hq : isQuote c with
  | false => rfl
  | true => exact nomatch h.symm.trans (isLetter_of_isQuote hq)

/-- Letters are no digits. -/
theorem isDigit_of_isLetter {c : Char} (h : isLetter c) : c.isDigit = false := by
  cases hd : c.isDigit with
  | false => rfl
  | true => exact nomatch h.symm.trans (isLetter_of_isDigit hd)

/-- No letter begins a symbol, since `symbols` do not begin with letters. -/
theorem symbol?_of_isLetter {c : Char} (h : isLetter c) : symbol? c = none := by
  cases hs : symbol? c with
  | none => rfl
  | some s =>
    have hl := isLetter_first (mem_of_symbol? hs)
    rw [first_of_symbol? hs] at hl
    exact nomatch h.symm.trans hl

/-- `wordKind` says identifier or keyword. -/
theorem wordKind_eq (word : List Char) :
    wordKind word = .identifier ∨ (wordKind word).isKeyword = true := by
  unfold wordKind
  cases hk : keyword? (String.ofList word) with
  | none => exact .inl rfl
  | some k => exact .inr (keyword?_eq_some_iff.1 hk).1

/-- `wordKind` never says what other lexemes are. -/
theorem wordKind_ne (word : List Char) :
    wordKind word ≠ .number ∧ wordKind word ≠ .string ∧ wordKind word ≠ .eof := by
  rcases wordKind_eq word with h | h
  · simp [h]
  · refine ⟨?_, ?_, ?_⟩ <;> intro heq <;> simp [heq, Kind.isKeyword] at h

end Lexer

/-! ## Well-formed lexemes -/

namespace Lexeme

/-- A lexeme with the kind and the value that its text asks for. -/
inductive WellFormed : Lexeme → Prop where
  /-- One character of punctuation or an operator of one character. -/
  | alone {s : Symbol} {kind : Kind} : s ∈ symbols → s.alone = some kind →
      WellFormed (.plain kind [s.first])
  /-- An operator of two characters. -/
  | pair {s : Symbol} {second : Char} {kind : Kind} : s ∈ symbols → (second, kind) ∈ s.pairs →
      WellFormed (.plain kind [s.first, second])
  | number {digits : List Char} : digits ≠ [] → (∀ d ∈ digits, d.isDigit) →
      WellFormed (.plain .number digits)
  | word {letters : List Char} : letters ≠ [] → (∀ c ∈ letters, isLetter c) →
      WellFormed (.plain (Lexer.wordKind letters) letters)
  | string {quote : Char} {content : List Char} : Lexer.isQuote quote → quote ∉ content →
      WellFormed ⟨.string, content, quote :: content ++ [quote]⟩

/-- Whether a character right after the lexeme makes a longer one of it: a digit after a number, a
letter after a word, and after an operator of one character those listed with it. -/
def JoinedBy (l : Lexeme) (c : Char) : Prop :=
  (l.kind = .number ∧ c.isDigit) ∨
  ((l.kind = .identifier ∨ l.kind.isKeyword) ∧ isLetter c) ∨
  ∃ s ∈ symbols, l.text = [s.first] ∧ c ∈ s.pairs.map Prod.fst

/-! ### Joining, for each form of a lexeme -/

/-- Nothing joins a string: its last quote closes it. -/
theorem not_joinedBy_string (quote : Char) (content : List Char) (c : Char) :
    ¬ JoinedBy ⟨.string, content, quote :: content ++ [quote]⟩ c := by
  simp [JoinedBy, Kind.isKeyword]

/-- Digits join a number, and nothing else does. -/
theorem joinedBy_number_iff {digit : Char} (h : digit.isDigit) (run : List Char) (c : Char) :
    JoinedBy (.plain .number (digit :: run)) c ↔ c.isDigit := by
  have hfirst : ∀ s ∈ symbols, digit ≠ s.first := fun s hs heq => by
    simp [heq, Lexer.isDigit_first hs] at h
  simp only [JoinedBy, plain, Kind.isKeyword, List.cons.injEq]
  grind

/-- Letters join an identifier or a keyword, and nothing else does. -/
theorem joinedBy_word_iff {letter : Char} (h : isLetter letter) (run : List Char) (c : Char) :
    JoinedBy (.plain (Lexer.wordKind (letter :: run)) (letter :: run)) c ↔ isLetter c := by
  have hfirst : ∀ s ∈ symbols, letter ≠ s.first := fun s hs heq => by
    simp [heq, Lexer.isLetter_first hs] at h
  have hkind := Lexer.wordKind_eq (letter :: run)
  have hnumber := (Lexer.wordKind_ne (letter :: run)).1
  simp only [JoinedBy, plain, List.cons.injEq]
  grind

/-- A symbol that stands `alone` is joined by the second characters that are listed with it. -/
theorem joinedBy_alone_iff {s : Symbol} {kind : Kind} (hs : s ∈ symbols)
    (h : s.alone = some kind) (c : Char) :
    JoinedBy (.plain kind [s.first]) c ↔ c ∈ s.pairs.map Prod.fst := by
  obtain ⟨hnumber, hident, _, _, hkey⟩ := Kind.ne_of_isSymbol (Lexer.isSymbol_alone hs h)
  constructor
  · rintro (⟨hn, _⟩ | ⟨hn, _⟩ | ⟨s', hs', htext, hc⟩)
    · exact absurd hn hnumber
    · simp [plain, hident, hkey] at hn
    · -- No other symbol begins with the same character.
      have hfirst : s.first = s'.first := by simpa [plain] using htext
      have hsym := Lexer.symbol?_first hs'
      rw [← hfirst, Lexer.symbol?_first hs, Option.some.injEq] at hsym
      exact hsym ▸ hc
  · exact fun hc => .inr (.inr ⟨s, hs, rfl, hc⟩)

/-- Nothing joins a symbol of two characters. -/
theorem not_joinedBy_pair {s : Symbol} {second : Char} {kind : Kind} (hs : s ∈ symbols)
    (h : (second, kind) ∈ s.pairs) (c : Char) :
    ¬ JoinedBy (.plain kind [s.first, second]) c := by
  obtain ⟨hnumber, hident, _, _, hkey⟩ := Kind.ne_of_isSymbol (Lexer.isSymbol_pair hs h)
  simp [JoinedBy, plain, hnumber, hident, hkey]

end Lexeme

/-! ## What the readers take

One statement for each reader: which lexeme and which rest it gives. -/

namespace Lexer

/-- `stringLexeme` takes everything up to the first quote like the one that the string began with.
-/
theorem stringLexeme_eq_ok_iff {quote : Char} {cs rest : List Char} {l : Lexeme} :
    stringLexeme quote cs = .ok (l, rest) ↔ ∃ content, quote ∉ content ∧
      cs = content ++ quote :: rest ∧ l = ⟨.string, content, quote :: content ++ [quote]⟩ := by
  constructor
  · intro h
    -- The content is what comes before the first such quote, so it has none in it.
    have hcs := List.takeWhile_append_dropWhile (p := (· != quote)) (l := cs)
    have hhead := List.head?_dropWhile_not (· != quote) cs
    have hall : quote ∉ cs.takeWhile (· != quote) := fun hmem => by
      simpa using List.all_takeWhile (p := (· != quote)) |> List.all_eq_true.1 |> (· quote hmem)
    unfold stringLexeme at h
    split at h
    · exact nomatch h
    · next close after hdrop =>
      simp only [Except.ok.injEq, Prod.mk.injEq] at h
      obtain ⟨rfl, rfl⟩ := h
      -- What stopped the content is the quote itself.
      have hclose : close = quote := by simpa [hdrop] using hhead
      subst hclose
      exact ⟨_, hall, by rw [← hdrop, hcs], rfl⟩
  · rintro ⟨content, hnot, rfl, rfl⟩
    have hall : ∀ c ∈ content, (c != quote) = true := fun c hc => by
      simp only [bne_iff_ne, ne_eq]
      exact fun heq => hnot (heq ▸ hc)
    simp [stringLexeme, List.takeWhile_append_of_pos hall, List.dropWhile_append_of_pos hall]

/-- `runLexeme` takes characters up to the first one outside the class. -/
theorem runLexeme_eq_iff {kind : List Char → Kind} {inClass : Char → Bool} {c : Char}
    {cs rest : List Char} {l : Lexeme} :
    runLexeme kind inClass c cs = (l, rest) ↔ ∃ run, (∀ d ∈ run, inClass d) ∧
      cs = run ++ rest ∧ (∀ d ∈ rest.head?, ¬ inClass d) ∧
      l = .plain (kind (c :: run)) (c :: run) := by
  constructor
  · intro h
    simp only [runLexeme, Prod.mk.injEq] at h
    obtain ⟨rfl, rfl⟩ := h
    refine ⟨cs.takeWhile inClass, List.all_eq_true.1 List.all_takeWhile,
      List.takeWhile_append_dropWhile.symm, fun d hd => ?_, rfl⟩
    have hhead := List.head?_dropWhile_not inClass cs
    rw [Option.mem_def.1 hd] at hhead
    simp [hhead]
  · rintro ⟨run, hall, rfl, hhead, rfl⟩
    -- The run is all that `takeWhile` takes: it stops right at the beginning of the rest.
    have htake : rest.takeWhile inClass = [] ∧ rest.dropWhile inClass = rest := by
      cases rest with
      | nil => exact ⟨rfl, rfl⟩
      | cons d rest =>
        have hd := hhead d rfl
        exact ⟨List.takeWhile_cons_of_neg hd, List.dropWhile_cons_of_neg hd⟩
    simp only [runLexeme, List.takeWhile_append_of_pos hall, List.dropWhile_append_of_pos hall,
      htake, List.append_nil]

/-- `aloneLexeme` takes the first character only, if the symbol may stand alone. -/
theorem aloneLexeme_eq_ok_iff {s : Symbol} {cs rest : List Char} {l : Lexeme} :
    aloneLexeme s cs = .ok (l, rest) ↔ ∃ kind, s.alone = some kind ∧ cs = rest ∧
      l = .plain kind [s.first] := by
  unfold aloneLexeme
  cases s.alone with
  | none => simp
  | some kind => simp [eq_comm, and_comm]

/-- `symbolLexeme` takes the second character if it is listed, and has to do without it otherwise.
-/
theorem symbolLexeme_eq_ok_iff {s : Symbol} (hs : s ∈ symbols) {cs rest : List Char} {l : Lexeme} :
    symbolLexeme s cs = .ok (l, rest) ↔
      (∃ second kind, (second, kind) ∈ s.pairs ∧ cs = second :: rest ∧
        l = .plain kind [s.first, second]) ∨
      (∃ kind, s.alone = some kind ∧ cs = rest ∧ l = .plain kind [s.first] ∧
        ∀ d ∈ rest.head?, d ∉ s.pairs.map Prod.fst) := by
  constructor
  · intro h
    unfold symbolLexeme at h
    split at h
    -- At the end of the text there is no second character.
    · obtain ⟨kind, halone, rfl, rfl⟩ := aloneLexeme_eq_ok_iff.1 h
      exact .inr ⟨kind, halone, rfl, rfl, by simp⟩
    · next second after =>
      split at h
      · next kind hlookup =>
        simp only [Except.ok.injEq, Prod.mk.injEq] at h
        obtain ⟨rfl, rfl⟩ := h
        exact .inl ⟨second, kind, mem_of_lookup hlookup, rfl, rfl⟩
      · next hlookup =>
        obtain ⟨kind, halone, rfl, rfl⟩ := aloneLexeme_eq_ok_iff.1 h
        refine .inr ⟨kind, halone, rfl, rfl, fun d hd => ?_⟩
        obtain rfl : second = d := by simpa using hd
        exact lookup_eq_none_iff_notMem.1 hlookup
  -- A second character that is listed is looked up; one that is not makes the lookup fail.
  · rintro (⟨second, kind, hmem, rfl, rfl⟩ | ⟨kind, halone, rfl, rfl, hhead⟩)
    · simp [symbolLexeme, symbols_pairs s hs _ hmem]
    · unfold symbolLexeme
      split
      · exact aloneLexeme_eq_ok_iff.2 ⟨kind, halone, rfl, rfl⟩
      · next second after =>
        rw [lookup_eq_none_iff_notMem.2 (hhead second rfl)]
        exact aloneLexeme_eq_ok_iff.2 ⟨kind, halone, rfl, rfl⟩

/-! ### The reader that the first character calls for -/

/-- At a quote `nextLexeme` reads a string. -/
theorem nextLexeme_of_isQuote {c : Char} (h : isQuote c) (cs : List Char) :
    nextLexeme c cs = stringLexeme c cs := by
  rw [nextLexeme, if_pos h]

/-- At a digit `nextLexeme` reads a number. -/
theorem nextLexeme_of_isDigit {c : Char} (h : c.isDigit) (cs : List Char) :
    nextLexeme c cs = .ok (runLexeme (fun _ => .number) Char.isDigit c cs) := by
  simp [nextLexeme, isQuote_of_isDigit h, h]

/-- At the first character of a symbol `nextLexeme` reads a symbol. -/
theorem nextLexeme_of_symbol {s : Symbol} (hs : s ∈ symbols) (cs : List Char) :
    nextLexeme s.first cs = symbolLexeme s cs := by
  simp [nextLexeme, isQuote_first hs, isDigit_first hs, symbol?_first hs]

/-- At a letter `nextLexeme` reads a word. -/
theorem nextLexeme_of_isLetter {c : Char} (h : isLetter c) (cs : List Char) :
    nextLexeme c cs = .ok (runLexeme wordKind isLetter c cs) := by
  simp [nextLexeme, isQuote_of_isLetter h, isDigit_of_isLetter h, symbol?_of_isLetter h, h]

/-! ### The specification of the lexer -/

/-- What `nextLexeme` takes is `WellFormed`, and the character after it does not join it. -/
private theorem wellFormed_of_nextLexeme {c : Char} {cs rest : List Char} {l : Lexeme}
    (h : nextLexeme c cs = .ok (l, rest)) :
    l.WellFormed ∧ ∀ d ∈ rest.head?, ¬ l.JoinedBy d := by
  -- One branch for each reader: quote, digit, symbol, letter.
  unfold nextLexeme at h
  split at h
  · next hq =>
    obtain ⟨content, hnot, rfl, rfl⟩ := stringLexeme_eq_ok_iff.1 h
    exact ⟨.string hq hnot, fun d _ => Lexeme.not_joinedBy_string _ _ _⟩
  · split at h
    · next hd =>
      obtain ⟨run, hall, rfl, hhead, rfl⟩ := runLexeme_eq_iff.1 (Except.ok.inj h)
      refine ⟨.number (by simp) (List.forall_mem_cons.2 ⟨hd, hall⟩), fun d hmem => ?_⟩
      rw [Lexeme.joinedBy_number_iff hd]
      exact hhead d hmem
    · split at h
      · next s hsymbol =>
        have hs := mem_of_symbol? hsymbol
        rcases (symbolLexeme_eq_ok_iff hs).1 h with
          ⟨second, kind, hmem, rfl, rfl⟩ | ⟨kind, halone, rfl, rfl, hhead⟩
        · exact ⟨.pair hs hmem, fun d _ => Lexeme.not_joinedBy_pair hs hmem d⟩
        · refine ⟨.alone hs halone, fun d hd => ?_⟩
          rw [Lexeme.joinedBy_alone_iff hs halone]
          exact hhead d hd
      · split at h
        · next hl =>
          obtain ⟨run, hall, rfl, hhead, rfl⟩ := runLexeme_eq_iff.1 (Except.ok.inj h)
          refine ⟨.word (by simp) (List.forall_mem_cons.2 ⟨hl, hall⟩), fun d hmem => ?_⟩
          rw [Lexeme.joinedBy_word_iff hl]
          exact hhead d hmem
        · exact nomatch h

/-- `nextLexeme` takes a lexeme exactly if it is `WellFormed`, stands there, and the next character
does not join it. -/
theorem nextLexeme_eq_ok_iff {c : Char} {cs rest : List Char} {l : Lexeme} :
    nextLexeme c cs = .ok (l, rest) ↔
      l.WellFormed ∧ c :: cs = l.text ++ rest ∧ ∀ d ∈ rest.head?, ¬ l.JoinedBy d := by
  constructor
  · intro h
    obtain ⟨hl, hhead⟩ := wellFormed_of_nextLexeme h
    exact ⟨hl, nextLexeme_text h, hhead⟩
  · rintro ⟨hl, htext, hhead⟩
    -- The other way round the form of the lexeme says which reader its first character calls for.
    cases hl with
    | @alone s kind hs halone =>
      obtain ⟨rfl, rfl⟩ : c = s.first ∧ cs = rest := by simpa [Lexeme.plain] using htext
      simp only [Lexeme.joinedBy_alone_iff hs halone] at hhead
      rw [nextLexeme_of_symbol hs]
      exact (symbolLexeme_eq_ok_iff hs).2 (.inr ⟨kind, halone, rfl, rfl, hhead⟩)
    | @pair s second kind hs hmem =>
      obtain ⟨rfl, rfl⟩ : c = s.first ∧ cs = second :: rest := by
        simpa [Lexeme.plain] using htext
      rw [nextLexeme_of_symbol hs]
      exact (symbolLexeme_eq_ok_iff hs).2 (.inl ⟨second, kind, hmem, rfl, rfl⟩)
    | @number digits hne hall =>
      obtain ⟨digit, run, rfl⟩ := List.exists_cons_of_ne_nil hne
      obtain ⟨rfl, rfl⟩ : c = digit ∧ cs = run ++ rest := by simpa [Lexeme.plain] using htext
      obtain ⟨hc, hrun⟩ := List.forall_mem_cons.1 hall
      simp only [Lexeme.joinedBy_number_iff hc] at hhead
      rw [nextLexeme_of_isDigit hc]
      exact congrArg Except.ok (runLexeme_eq_iff.2 ⟨run, hrun, rfl, hhead, rfl⟩)
    | @word letters hne hall =>
      obtain ⟨letter, run, rfl⟩ := List.exists_cons_of_ne_nil hne
      obtain ⟨rfl, rfl⟩ : c = letter ∧ cs = run ++ rest := by simpa [Lexeme.plain] using htext
      obtain ⟨hc, hrun⟩ := List.forall_mem_cons.1 hall
      simp only [Lexeme.joinedBy_word_iff hc] at hhead
      rw [nextLexeme_of_isLetter hc]
      exact congrArg Except.ok (runLexeme_eq_iff.2 ⟨run, hrun, rfl, hhead, rfl⟩)
    | @string quote content hq hnot =>
      obtain ⟨rfl, rfl⟩ : c = quote ∧ cs = content ++ quote :: rest := by simpa using htext
      rw [nextLexeme_of_isQuote hq]
      exact stringLexeme_eq_ok_iff.2 ⟨content, hnot, rfl, rfl⟩

/-! ## Consequences -/

/-- Wherever some `WellFormed` lexeme stands, `nextLexeme` takes one. -/
theorem exists_nextLexeme {c : Char} {cs rest : List Char} {l : Lexeme} (hl : l.WellFormed)
    (h : c :: cs = l.text ++ rest) : ∃ read, nextLexeme c cs = .ok read := by
  cases hl with
  | @alone s kind hs halone =>
    obtain ⟨rfl, rfl⟩ : c = s.first ∧ cs = rest := by simpa [Lexeme.plain] using h
    rw [nextLexeme_of_symbol hs]
    -- The lexer may take a longer operator than the one that was asked for.
    by_cases hjoin : ∃ d ∈ cs.head?, d ∈ s.pairs.map Prod.fst
    · obtain ⟨d, hd, hpair⟩ := hjoin
      obtain ⟨⟨second, kind'⟩, hmem, rfl⟩ := List.mem_map.1 hpair
      obtain ⟨after, rfl⟩ := List.head?_eq_some_iff.1 hd
      exact ⟨_, (symbolLexeme_eq_ok_iff hs).2 (.inl ⟨second, kind', hmem, rfl, rfl⟩)⟩
    · have hhead : ∀ d ∈ cs.head?, d ∉ s.pairs.map Prod.fst := fun d hd hp => hjoin ⟨d, hd, hp⟩
      exact ⟨_, (symbolLexeme_eq_ok_iff hs).2 (.inr ⟨kind, halone, rfl, rfl, hhead⟩)⟩
  | pair hs hmem =>
    exact ⟨_, nextLexeme_eq_ok_iff.2
      ⟨.pair hs hmem, h, fun d _ => Lexeme.not_joinedBy_pair hs hmem d⟩⟩
  | @number digits hne hall =>
    -- A run goes on as far as it can, so it is not needed that the lexeme ends where this one does.
    obtain ⟨digit, run, rfl⟩ := List.exists_cons_of_ne_nil hne
    obtain ⟨rfl, rfl⟩ : c = digit ∧ cs = run ++ rest := by simpa [Lexeme.plain] using h
    exact ⟨_, nextLexeme_of_isDigit (hall c (List.mem_cons_self ..)) _⟩
  | @word letters hne hall =>
    obtain ⟨letter, run, rfl⟩ := List.exists_cons_of_ne_nil hne
    obtain ⟨rfl, rfl⟩ : c = letter ∧ cs = run ++ rest := by simpa [Lexeme.plain] using h
    exact ⟨_, nextLexeme_of_isLetter (hall c (List.mem_cons_self ..)) _⟩
  | string hq hnot =>
    exact ⟨_, nextLexeme_eq_ok_iff.2
      ⟨.string hq hnot, h, fun d _ => Lexeme.not_joinedBy_string _ _ d⟩⟩

end Lexer

namespace Lexeme

/-- A `WellFormed` lexeme has at least one character. -/
theorem WellFormed.text_ne_nil {l : Lexeme} (hl : l.WellFormed) : l.text ≠ [] := by
  cases hl with
  | alone | pair | string => simp [plain]
  | number hne | word hne => exact hne

/-- No `WellFormed` lexeme marks the end of a source. -/
theorem WellFormed.kind_ne_eof {l : Lexeme} (hl : l.WellFormed) : l.kind ≠ .eof := by
  cases hl with
  | alone hs halone => exact (Kind.ne_of_isSymbol (Lexer.isSymbol_alone hs halone)).2.2.2.1
  | pair hs hmem => exact (Kind.ne_of_isSymbol (Lexer.isSymbol_pair hs hmem)).2.2.2.1
  | number | string => simp [plain]
  | @word letters => exact (Lexer.wordKind_ne letters).2.2

/-- The `value` is the `text`, but for the quotes of a string. -/
theorem WellFormed.value_eq {l : Lexeme} (hl : l.WellFormed) :
    (l.kind ≠ .string ∧ l.value = l.text) ∨
    (l.kind = .string ∧ ∃ quote, Lexer.isQuote quote ∧ quote ∉ l.value ∧
      l.text = quote :: l.value ++ [quote]) := by
  cases hl with
  | alone hs halone =>
    exact .inl ⟨(Kind.ne_of_isSymbol (Lexer.isSymbol_alone hs halone)).2.2.1, rfl⟩
  | pair hs hmem => exact .inl ⟨(Kind.ne_of_isSymbol (Lexer.isSymbol_pair hs hmem)).2.2.1, rfl⟩
  | number => exact .inl ⟨by simp [plain], rfl⟩
  | @word letters => exact .inl ⟨(Lexer.wordKind_ne letters).2.1, rfl⟩
  | @string quote content hq hnot => exact .inr ⟨rfl, quote, hq, hnot, rfl⟩

/-- A `WellFormed` lexeme without anything after it is what `nextLexeme` takes of its text. -/
theorem WellFormed.nextLexeme_text {l : Lexeme} (hl : l.WellFormed) {c : Char} {cs : List Char}
    (h : l.text = c :: cs) : Lexer.nextLexeme c cs = .ok (l, []) :=
  Lexer.nextLexeme_eq_ok_iff.2 ⟨hl, by simp [h], by simp⟩

/-- Only a symbol that stands `alone` has the text of its first character. -/
theorem WellFormed.alone_eq {l : Lexeme} (hl : l.WellFormed) {s : Symbol} (hs : s ∈ symbols)
    (h : l.text = [s.first]) : s.alone = some l.kind := by
  have hread := hl.nextLexeme_text h
  rw [Lexer.nextLexeme_of_symbol hs] at hread
  rcases (Lexer.symbolLexeme_eq_ok_iff hs).1 hread with
    ⟨_, _, _, hcs, _⟩ | ⟨kind, halone, _, rfl, _⟩
  · exact nomatch hcs
  · exact halone

/-- A `WellFormed` lexeme is determined by its `text`: there is one that `nextLexeme` takes of it.
-/
theorem WellFormed.eq_of_text_eq {l l' : Lexeme} (hl : l.WellFormed) (hl' : l'.WellFormed)
    (h : l.text = l'.text) : l = l' := by
  obtain ⟨c, cs, htext⟩ := List.exists_cons_of_ne_nil hl.text_ne_nil
  have hread := hl.nextLexeme_text htext
  rw [hl'.nextLexeme_text (h ▸ htext)] at hread
  simpa [eq_comm] using hread

/-- Tokens do not begin with characters that are dropped between them. -/
theorem WellFormed.isSkippable_head {l : Lexeme} (hl : l.WellFormed) {c : Char} {cs : List Char}
    (h : l.text = c :: cs) : isSkippable c = false := by
  cases hl with
  | alone hs | pair hs =>
    obtain rfl := (List.cons.inj h).1
    exact Lexer.isSkippable_first hs
  | number _ hall =>
    -- Characters that are dropped are neither digits nor letters.
    have hd := hall c (by simp_all [plain])
    cases hc : isSkippable c with
    | false => rfl
    | true =>
      rw [Lexer.isDigit_of_isSkippable hc] at hd
      cases hd
  | word _ hall =>
    have hd := hall c (by simp_all [plain])
    cases hc : isSkippable c with
    | false => rfl
    | true =>
      rw [Lexer.isLetter_of_isSkippable hc] at hd
      cases hd
  | string hq =>
    obtain rfl := (List.cons.inj h).1
    exact Lexer.isSkippable_of_isQuote hq

end Lexeme

/-- Of two lexemes at the front of a text, the longer one begins with the shorter one and a
character that is `JoinedBy` it. -/
theorem Lexeme.WellFormed.joinedBy_of_text_eq {l longer : Lexeme} (hl : l.WellFormed)
    (hlonger : longer.WellFormed) {d : Char} {ds : List Char}
    (h : longer.text = l.text ++ d :: ds) : l.JoinedBy d := by
  obtain ⟨c, cs, htext⟩ := List.exists_cons_of_ne_nil hl.text_ne_nil
  by_contra hjoin
  -- Otherwise the shorter one could be read there as well.
  have hread : Lexer.nextLexeme c (cs ++ d :: ds) = .ok (l, d :: ds) :=
    Lexer.nextLexeme_eq_ok_iff.2 ⟨hl, by simp [htext], by simpa using hjoin⟩
  rw [hlonger.nextLexeme_text (by rw [h, htext, List.cons_append])] at hread
  simp at hread

/-- A lexeme that is not `JoinedBy` the next character is the longest one in its place. -/
theorem Lexeme.WellFormed.length_le {l l' : Lexeme} {rest : List Char} (hl : l.WellFormed)
    (hhead : ∀ d ∈ rest.head?, ¬ l.JoinedBy d) (hl' : l'.WellFormed)
    (hfront : l'.text <+: l.text ++ rest) : l'.text.length ≤ l.text.length := by
  by_contra hlt
  have hstart : l.text <+: l'.text :=
    List.prefix_of_prefix_length_le ⟨rest, rfl⟩ hfront (by omega)
  obtain ⟨u, hu⟩ := hstart
  cases u with
  | nil => simp [← hu] at hlt
  | cons d ds =>
    -- The character after `l` is the one that makes `l'` longer, so it joins.
    obtain ⟨after, hafter⟩ := hfront
    rw [← hu, List.append_assoc, List.append_cancel_left_eq, List.cons_append] at hafter
    exact hhead d (by simp [← hafter]) (hl.joinedBy_of_text_eq hl' hu.symm)

end ScriptCore
