import ScriptCore.Proofs.Token.Concatenation

/-!
# What the value of a token tells

The lexer decides kinds by its table of symbols and by looking up reserved words, and the labels of
the kinds are written down apart from both.  `Conforms` says what kind and value of a token have to do
with each other, so that the tables agree.

* `conforms_tokenAt`: every lexeme that the lexer takes conforms;
* `WellFormed.kind_eq_of_value_eq`: the value of a lexeme other than a string determines its kind;
* `scan_word`: a run of letters is one token between texts that do not go on with letters;
* `tokenize_conforms`: what this means for the tokens of sources.
-/

namespace ScriptCore

/-- The operators that share a kind, of which only the value tells them apart. -/
def arithmeticOperators : List String := ["+", "-", "*", "/", "%", "^"]

namespace Token

/-- The kind and the value of the token agree with the tables of kinds. -/
structure Conforms (t : Token) : Prop where
  /-- Reserved words, punctuation and operators are their own labels. -/
  value_eq_label : t.kind.isKeyword ∨ t.kind.isSymbol → t.kind ≠ .binaryOperator →
    t.value = t.kind.label
  arithmetic : t.kind = .binaryOperator → t.value ∈ arithmeticOperators
  number : t.kind = .number → t.value.toList ≠ [] ∧ ∀ c ∈ t.value.toList, c.isDigit
  identifier : t.kind = .identifier → t.value.toList ≠ [] ∧ (∀ c ∈ t.value.toList, isLetter c) ∧
    t.value ∉ keywords
  isKeyword_iff : t.kind.isKeyword ↔ keyword? t.value = some t.kind ∧ t.kind ≠ .string

/-- The token is written as its value: it is no string, and not the one for the end. -/
def IsVerbatim (t : Token) : Prop := t.kind ≠ .string ∧ t.kind ≠ .eof

end Token

open Text (byteLength byteLength_append)

namespace Lexer

/-! ## The tables -/

/-- What a symbol is alone has the spelling as its label, unless it is one of the
`arithmeticOperators`. -/
private theorem symbols_alone_label : ∀ s ∈ symbols, ∀ k ∈ s.alone,
    (k ≠ .binaryOperator → String.ofList [s.first] = k.label) ∧
    (k = .binaryOperator → String.ofList [s.first] ∈ arithmeticOperators) := by
  decide

/-- What a symbol is with a second character has the spelling as its label. -/
private theorem symbols_pairs_label : ∀ s ∈ symbols, ∀ p ∈ s.pairs,
    p.2 ≠ .binaryOperator ∧ String.ofList [s.first, p.1] = p.2.label := by
  decide

/-! ## Lexemes -/

/-- What is neither a word nor a number `Conforms` if the label does. -/
private theorem conforms_symbol {t : Token} (hsymbol : t.kind.isSymbol)
    (hlabel : t.kind ≠ .binaryOperator → t.value = t.kind.label)
    (harithmetic : t.kind = .binaryOperator → t.value ∈ arithmeticOperators) : t.Conforms := by
  -- The kind of a symbol is none of those that spellings are checked for.
  obtain ⟨hnumber, hidentifier, -, -, hkeyword⟩ := Kind.ne_of_isSymbol hsymbol
  refine ⟨fun _ => hlabel, harithmetic, fun h => absurd h hnumber,
    fun h => absurd h hidentifier, ?_⟩
  rw [hkeyword]
  constructor
  · intro h
    cases h
  · rintro ⟨h, -⟩
    rw [← hkeyword]
    exact (keyword?_eq_some_iff.1 h).1

/-- What is a reserved word `Conforms`, since `keyword?` found its kind and `Kind.label` agrees. -/
private theorem conforms_keyword {t : Token} (hword : keyword? t.value = some t.kind) :
    t.Conforms := by
  obtain ⟨hkeyword, hlabel⟩ := keyword?_eq_some_iff.1 hword
  -- None of the kinds that are checked otherwise is one of a reserved word.
  have hkinds : t.kind ≠ .binaryOperator ∧ t.kind ≠ .number ∧ t.kind ≠ .identifier ∧
      t.kind ≠ .string := by
    cases hkind : t.kind <;> simp [hkind, Kind.isKeyword] at hkeyword ⊢
  obtain ⟨hoperator, hnumber, hidentifier, hstring⟩ := hkinds
  refine ⟨fun _ _ => hlabel.symm, fun h => absurd h hoperator, fun h => absurd h hnumber,
    fun h => absurd h hidentifier, ?_⟩
  exact iff_of_true hkeyword ⟨hword, hstring⟩

/-- What has no label `Conforms` if numbers and identifiers are spelled as they should be. -/
private theorem conforms_unlabelled {t : Token} (hkeyword : t.kind.isKeyword = false)
    (hsymbol : t.kind.isSymbol = false)
    (hnumber : t.kind = .number → t.value.toList ≠ [] ∧ ∀ c ∈ t.value.toList, c.isDigit)
    (hidentifier : t.kind = .identifier → t.value.toList ≠ [] ∧
      (∀ c ∈ t.value.toList, isLetter c) ∧ t.value ∉ keywords) : t.Conforms := by
  refine ⟨fun h => ?_, fun h => ?_, hnumber, hidentifier, ?_⟩
  · rw [hkeyword, hsymbol] at h
    simp at h
  · rw [h] at hsymbol
    cases hsymbol
  · rw [hkeyword]
    refine iff_of_false Bool.false_ne_true fun h => ?_
    -- The lookup finds no kind that is not that of a reserved word.
    rw [(keyword?_eq_some_iff.1 h.1).1] at hkeyword
    cases hkeyword

/-- `wordKind` gives a run of letters the kind of the reserved word that it is, or calls it an
identifier. -/
theorem wordKind_cases (word : List Char) :
    (keyword? (String.ofList word) = some (wordKind word) ∧ (wordKind word).isKeyword) ∨
    (wordKind word = .identifier ∧ String.ofList word ∉ keywords) := by
  rw [wordKind]
  cases h : keyword? (String.ofList word) with
  | some k => exact .inl ⟨rfl, (keyword?_eq_some_iff.1 h).1⟩
  | none => exact .inr ⟨rfl, keyword?_eq_none_iff.1 h⟩

/-- The token of every `WellFormed` lexeme `Conforms`. -/
theorem conforms_tokenAt {l : Lexeme} (hl : l.WellFormed) (offset : Nat) :
    (tokenAt offset l).Conforms := by
  -- Symbols have their kinds from the table of symbols, words from the lookup; the rest has fixed ones.
  cases hl with
  | @alone s kind hs halone =>
    obtain ⟨hlabel, harithmetic⟩ := symbols_alone_label s hs kind halone
    exact conforms_symbol (isSymbol_alone hs halone) hlabel harithmetic
  | @pair s second kind hs hpair =>
    obtain ⟨hother, hlabel⟩ := symbols_pairs_label s hs _ hpair
    exact conforms_symbol (isSymbol_pair hs hpair) (fun _ => hlabel) (fun hop => absurd hop hother)
  | @number digits hne hall =>
    refine conforms_unlabelled rfl rfl (fun _ => ?_) (by rintro ⟨⟩)
    rw [value_tokenAt, Lexeme.plain, String.toList_ofList]
    exact ⟨hne, hall⟩
  | @word letters hne hall =>
    rcases wordKind_cases letters with ⟨hkeyword, -⟩ | ⟨hkind, hfree⟩
    · exact conforms_keyword hkeyword
    · have hkind : (tokenAt offset (.plain (wordKind letters) letters)).kind = .identifier := hkind
      refine conforms_unlabelled (by rw [hkind]; rfl) (by rw [hkind]; rfl) (fun h => ?_) fun _ => ?_
      · cases hkind.symm.trans h
      · rw [value_tokenAt, Lexeme.plain, String.toList_ofList]
        exact ⟨hne, hall, hfree⟩
  | string hq hnot => exact conforms_unlabelled rfl rfl (by rintro ⟨⟩) (by rintro ⟨⟩)

end Lexer

/-- The value of a `WellFormed` lexeme that is no string determines its kind: it is the text. -/
theorem Lexeme.WellFormed.kind_eq_of_value_eq {l l' : Lexeme} (hl : l.WellFormed)
    (hl' : l'.WellFormed) (hkind : l.kind ≠ .string) (hkind' : l'.kind ≠ .string)
    (h : l.value = l'.value) : l.kind = l'.kind := by
  have htext {l : Lexeme} (hl : l.WellFormed) (hkind : l.kind ≠ .string) : l.value = l.text := by
    rcases hl.value_eq with ⟨-, h⟩ | ⟨h, -⟩
    · exact h
    · exact absurd h hkind
  rw [htext hl hkind, htext hl' hkind'] at h
  rw [hl.eq_of_text_eq hl' h]

namespace Lexer

/-! ## Runs of letters -/

/-- No operator goes on with a letter. -/
private theorem symbols_pairs_letter : ∀ s ∈ symbols, ∀ p ∈ s.pairs, isLetter p.1 = false := by
  decide

/-- A letter joins only what ends with a letter. -/
theorem isLetter_getLast?_of_joinedBy {l : Lexeme} (hl : l.WellFormed) {c : Char}
    (hc : isLetter c) (hjoin : l.JoinedBy c) : ∃ d ∈ l.text.getLast?, isLetter d := by
  cases hl with
  | @alone s kind hs halone =>
    -- A symbol joins only second characters of its pairs, and no letter is one.
    obtain ⟨p, hp, rfl⟩ := List.mem_map.1 ((Lexeme.joinedBy_alone_iff hs halone c).1 hjoin)
    rw [symbols_pairs_letter s hs p hp] at hc
    cases hc
  | pair hs hpair => exact absurd hjoin (Lexeme.not_joinedBy_pair hs hpair c)
  | string hq hnot => exact absurd hjoin (Lexeme.not_joinedBy_string _ _ c)
  | @number digits hne hall =>
    -- A number is joined by digits, and no letter is one.
    obtain ⟨digit, run, rfl⟩ := List.exists_cons_of_ne_nil hne
    rw [Lexeme.joinedBy_number_iff (hall digit List.mem_cons_self)] at hjoin
    rw [isDigit_of_isLetter hc] at hjoin
    cases hjoin
  | @word letters hne hall =>
    exact ⟨letters.getLast hne, List.getLast?_eq_some_getLast hne, hall _ (List.getLast_mem hne)⟩

/-- The last token of a text that does not end with a letter is not `JoinedBy` one. -/
theorem not_joinedBy_letter {offset : Nat} {cs : List Char} {ts : List Token}
    (h : Scanned offset cs ts) (hlast : ∀ d ∈ cs.getLast?, ¬ isLetter d) {t : Token} (ht : t ∈ ts)
    (hstop : t.span.stop = offset + byteLength cs) {c : Char} (hc : isLetter c) :
    ¬ t.JoinedBy c := by
  obtain ⟨before, l, rest, rfl, rfl, hl, -⟩ := h.exists_lexeme ht
  -- The token reaches the end of the text, so its last character is that of the text.
  have hrest : rest = [] := by
    rw [stop_tokenAt, byteLength_append, byteLength_append] at hstop
    exact Text.byteLength_eq_zero_iff.1 (by omega)
  subst hrest
  rw [joinedBy_tokenAt_iff hl]
  intro hjoin
  obtain ⟨d, hd, hletter⟩ := isLetter_getLast?_of_joinedBy hl hc hjoin
  refine hlast d ?_ hletter
  rw [List.append_nil, List.getLast?_append, Option.mem_def.1 hd]
  rfl

/-- `scan` reads a run of letters as one token after a text that does not end with a letter, and
before one that does not begin with one. -/
theorem scan_word {offset : Nat} {cs : List Char} {ts : List Token} (h : Scanned offset cs ts)
    (hlast : ∀ d ∈ cs.getLast?, ¬ isLetter d) {word after : List Char} (hne : word ≠ [])
    (hall : ∀ c ∈ word, isLetter c) (hafter : ∀ d ∈ after.head?, ¬ isLetter d) :
    scan offset (cs ++ (word ++ after)) =
      (scan (offset + byteLength cs + byteLength word) after).map
        (ts ++ tokenAt (offset + byteLength cs) (.plain (wordKind word) word) :: ·) := by
  obtain ⟨letter, run, rfl⟩ := List.exists_cons_of_ne_nil hne
  have hletter := hall letter List.mem_cons_self
  -- The last token before the word ends where it does, and so does the word itself.
  have hborder : ∀ t ∈ ts.getLast?, t.span.stop = offset + byteLength cs →
      ∀ c ∈ ((letter :: run) ++ after).head?, ¬ t.JoinedBy c := by
    rintro t ht hstop c hc
    obtain rfl : letter = c := Option.some.inj hc
    exact not_joinedBy_letter h hlast (List.mem_of_getLast? ht) hstop hletter
  have hend : ∀ d ∈ after.head?,
      ¬ (Lexeme.plain (wordKind (letter :: run)) (letter :: run)).JoinedBy d := by
    intro d hd
    rw [Lexeme.joinedBy_word_iff hletter]
    exact hafter d hd
  rw [scan_append h _ hborder]
  have hword := scan_wellFormed (.word hne hall) hend (offset + byteLength cs)
  rw [Lexeme.plain] at hword
  rw [hword]
  cases scan (offset + byteLength cs + byteLength (letter :: run)) after <;> rfl

end Lexer

open Lexer

/-- Two sources with a word between them: the tokens of the first source, one for the word, and
those of the second source in their places. -/
def wordBetween (first word : String) (kind : Kind) (tokens others : Array Token) : Array Token :=
  tokens.filter (!·.isEof) ++
    #[⟨kind, word, ⟨first.utf8ByteSize, first.utf8ByteSize + word.utf8ByteSize⟩⟩] ++
    others.map (·.shift (first.utf8ByteSize + word.utf8ByteSize))

/-- `tokenize` reads a run of letters between two sources, of which neither goes on with a letter,
as one token. -/
theorem tokenize_word {first word second : String}
    (hsize : (first ++ word ++ second).utf8ByteSize ≤ offsetLimit) {tokens others : Array Token}
    (hfirst : tokenize first = .ok tokens) (hsecond : tokenize second = .ok others)
    (hne : word.toList ≠ []) (hall : ∀ c ∈ word.toList, isLetter c)
    (hbefore : ∀ d ∈ first.toList.getLast?, ¬ isLetter d)
    (hafter : ∀ d ∈ second.toList.head?, ¬ isLetter d) :
    tokenize (first ++ word ++ second) =
      .ok (wordBetween first word (wordKind word.toList) tokens others) := by
  obtain ⟨-, body, hbody, rfl⟩ := scanned_of_tokenize hfirst
  obtain ⟨-, rest, hrest, rfl⟩ := scanned_of_tokenize hsecond
  have htext : (first ++ word ++ second).toList =
      first.toList ++ (word.toList ++ second.toList) := by
    simp
  -- The scan of the second source is that of the text from where it stands there, moved along.
  have hmoved := scan_shift 0 (first.utf8ByteSize + word.utf8ByteSize) second.toList
  rw [Nat.zero_add, scan_eq_ok_iff.2 hrest] at hmoved
  have hscan := scan_word hbody hbefore hne hall hafter
  rw [Nat.zero_add, ← Text.utf8ByteSize_eq, ← Text.utf8ByteSize_eq, hmoved] at hscan
  have hend : (Token.eof second.utf8ByteSize).shift (first.utf8ByteSize + word.utf8ByteSize) =
      Token.eof (first ++ word ++ second).utf8ByteSize := by
    rw [Token.shift_eof, String.utf8ByteSize_append, String.utf8ByteSize_append, Nat.add_comm]
  have htoken : tokenAt first.utf8ByteSize (.plain (wordKind word.toList) word.toList) =
      ⟨wordKind word.toList, word,
        ⟨first.utf8ByteSize, first.utf8ByteSize + word.utf8ByteSize⟩⟩ := by
    rw [tokenAt, Lexeme.plain, String.ofList_toList, ← Text.utf8ByteSize_eq]
  rw [tokenize_eq_scan hsize, htext, hscan, htoken, wordBetween, hbody.filter_isEof_toArray]
  simp [Except.map, Except.mapError, hend]

/-! ## Sources -/

/-- The token for the end `Conforms` as well. -/
theorem conforms_eof (offset : Nat) : (Token.eof offset).Conforms :=
  conforms_unlabelled rfl rfl (by rintro ⟨⟩) (by rintro ⟨⟩)

/-- The tokens of a source are those of `WellFormed` lexemes, but for the one for the end. -/
theorem exists_lexeme_of_mem {source : String} {tokens : Array Token}
    (h : tokenize source = .ok tokens) {t : Token} (ht : t ∈ tokens) :
    (∃ l offset, l.WellFormed ∧ t = tokenAt offset l) ∨ t = .eof source.utf8ByteSize := by
  obtain ⟨-, body, hbody, rfl⟩ := scanned_of_tokenize h
  rcases List.mem_append.1 (List.mem_toArray.1 ht) with ht | ht
  · obtain ⟨before, l, rest, -, rfl, hl, -⟩ := hbody.exists_lexeme ht
    exact .inl ⟨l, _, hl, rfl⟩
  · exact .inr (List.mem_singleton.1 ht)

/-- A token that `IsVerbatim` is that of a lexeme, and not of a string. -/
theorem exists_lexeme_of_isVerbatim {source : String} {tokens : Array Token}
    (h : tokenize source = .ok tokens) {t : Token} (ht : t ∈ tokens) (hverbatim : t.IsVerbatim) :
    ∃ l offset, l.WellFormed ∧ l.kind ≠ .string ∧ t = tokenAt offset l := by
  rcases exists_lexeme_of_mem h ht with ⟨l, offset, hl, rfl⟩ | rfl
  · exact ⟨l, offset, hl, hverbatim.1, rfl⟩
  · exact absurd rfl hverbatim.2

/-- The tokens that `tokenize` finds all `Conforms`, and their values determine their kinds, also
from one source to another. A run of letters, wherever it ends, is one token, which is an identifier
exactly if the run is none of the `keywords`. -/
theorem tokenize_conforms {source : String} {tokens : Array Token}
    (h : tokenize source = .ok tokens) :
    (∀ t ∈ tokens, t.Conforms) ∧
    (∀ source' tokens', tokenize source' = .ok tokens' → ∀ t ∈ tokens, ∀ u ∈ tokens',
      t.IsVerbatim → u.IsVerbatim → t.value = u.value → t.kind = u.kind) ∧
    (∀ word second others, tokenize second = .ok others →
      (source ++ word ++ second).utf8ByteSize ≤ offsetLimit →
      word.toList ≠ [] → (∀ c ∈ word.toList, isLetter c) →
      (∀ d ∈ source.toList.getLast?, ¬ isLetter d) → (∀ d ∈ second.toList.head?, ¬ isLetter d) →
      ∃ kind, tokenize (source ++ word ++ second) =
          .ok (wordBetween source word kind tokens others) ∧
        (kind = .identifier ↔ word ∉ keywords)) := by
  refine ⟨fun t ht => ?_, ?_, ?_⟩
  · rcases exists_lexeme_of_mem h ht with ⟨l, offset, hl, rfl⟩ | rfl
    · exact conforms_tokenAt hl offset
    · exact conforms_eof source.utf8ByteSize
  · intro source' tokens' h' t ht u hu hverbatim hverbatim' hvalue
    -- Both tokens are written as their values, so they come from the same lexeme.
    obtain ⟨l, offset, hl, hkind, rfl⟩ := exists_lexeme_of_isVerbatim h ht hverbatim
    obtain ⟨l', offset', hl', hkind', rfl⟩ := exists_lexeme_of_isVerbatim h' hu hverbatim'
    exact hl.kind_eq_of_value_eq hl' hkind hkind' (String.ofList_inj.1 hvalue)
  · intro word second others hsecond hsize hne hall hbefore hafter
    refine ⟨_, tokenize_word hsize h hsecond hne hall hbefore hafter, ?_⟩
    rcases wordKind_cases word.toList with ⟨hkeyword, hkind⟩ | ⟨hkind, hfree⟩
    · rw [String.ofList_toList] at hkeyword
      -- What is looked up is a reserved word, and has the kind of one.
      have hmem : word ∈ keywords := by
        by_contra hfree
        rw [keyword?_eq_none_iff.2 hfree] at hkeyword
        cases hkeyword
      refine iff_of_false (fun heq => ?_) (not_not.2 hmem)
      rw [heq] at hkind
      cases hkind
    · rw [String.ofList_toList] at hfree
      exact iff_of_true hkind hfree

/-- A reserved word after a sign and before a string, where `keyword?` and `Kind.label` agree about it,
and a longer word in the same place. -/
theorem tokenize_conforms_let :
    tokenize "-" = .ok #[⟨.binaryOperator, "-", ⟨0, 1⟩⟩, .eof 1] ∧
    tokenize "'let'" = .ok #[⟨.string, "let", ⟨0, 5⟩⟩, .eof 5] ∧
    "-" ∈ arithmeticOperators ∧
    tokenize ("-" ++ "let" ++ "'let'") = .ok #[⟨.binaryOperator, "-", ⟨0, 1⟩⟩,
      ⟨.letKeyword, "let", ⟨1, 4⟩⟩, ⟨.string, "let", ⟨4, 9⟩⟩, .eof 9] ∧
    "let" = Kind.letKeyword.label ∧ keyword? "let" = some .letKeyword ∧
    ∃ kind, tokenize ("-" ++ "lets" ++ "'let'") = .ok #[⟨.binaryOperator, "-", ⟨0, 1⟩⟩,
      ⟨kind, "lets", ⟨1, 5⟩⟩, ⟨.string, "let", ⟨5, 10⟩⟩, .eof 10] ∧ kind = .identifier := by
  have hsign : tokenize "-" = .ok #[⟨.binaryOperator, "-", ⟨0, 1⟩⟩, .eof 1] := by cbv
  have hstring : tokenize "'let'" = .ok #[⟨.string, "let", ⟨0, 5⟩⟩, .eof 5] := by cbv
  have hlet : tokenize ("-" ++ "let" ++ "'let'") = .ok #[⟨.binaryOperator, "-", ⟨0, 1⟩⟩,
      ⟨.letKeyword, "let", ⟨1, 4⟩⟩, ⟨.string, "let", ⟨4, 9⟩⟩, .eof 9] := by cbv
  obtain ⟨hconforms, -, hword⟩ := tokenize_conforms hsign
  obtain ⟨hconforms', -, -⟩ := tokenize_conforms hlet
  have hminus := (hconforms ⟨.binaryOperator, "-", ⟨0, 1⟩⟩ (by simp)).arithmetic rfl
  have hreserved := hconforms' ⟨.letKeyword, "let", ⟨1, 4⟩⟩ (by simp)
  have hbefore : ∀ d ∈ "-".toList.getLast?, ¬ isLetter d := by
    intro d hd
    obtain rfl : '-' = d := Option.some.inj hd
    decide
  have hafter : ∀ d ∈ "'let'".toList.head?, ¬ isLetter d := by
    intro d hd
    obtain rfl : '\'' = d := Option.some.inj hd
    decide
  obtain ⟨kind, htokens, hkind⟩ := hword "lets" "'let'" _ hstring (by decide) (by decide)
    (List.all_eq_true.1 (by decide)) hbefore hafter
  exact ⟨hsign, hstring, hminus, hlet, hreserved.value_eq_label (.inl rfl) (by decide),
    (hreserved.isKeyword_iff.1 rfl).1, kind, htokens.trans (by cbv), hkind.2 (by decide)⟩

end ScriptCore
