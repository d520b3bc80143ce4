import ScriptCore.Proofs.Token.Concatenation

/-!
# Texts that are identifiers

A text can be written as an identifier exactly if it consists of letters and is no reserved word.
Between skippable characters it then is one token, whatever stands on both sides.

* `not_joinedBy_of_isSkippable`, `scan_gap`: a skippable character ends a token, so what comes after
  it is read as if it stood alone;
* `isIdentifier_value`: no other text is the value of an identifier;
* `tokenize_between_iff`: which texts are read as an identifier between two sources.
-/

namespace ScriptCore

/-- The text consists of letters, at least one, and is no reserved word. -/
def IsIdentifier (name : String) : Prop :=
  name.toList ≠ [] ∧ name.toList.all isLetter = true ∧ keyword? name = none

instance (name : String) : Decidable (IsIdentifier name) :=
  inferInstanceAs (Decidable (_ ∧ _ ∧ _))

/-- The tokens of two sources, and between them that of an identifier with a space on both sides. -/
def identifierBetween (first name : String) (tokens others : Array Token) : Array Token :=
  tokens.filter (!·.isEof) ++
    #[⟨.identifier, name,
      ⟨first.utf8ByteSize + 1, first.utf8ByteSize + 1 + name.utf8ByteSize⟩⟩] ++
    others.map (·.shift (first.utf8ByteSize + 1 + name.utf8ByteSize + 1))

open Text (byteLength byteLength_append byteLength_cons byteLength_nil)

namespace Lexer

/-! ## Gaps -/

/-- A skippable character is part of no token before it, whatever its kind. -/
theorem not_joinedBy_of_isSkippable {c : Char} (hc : isSkippable c) (t : Token) :
    ¬ t.JoinedBy c := by
  have hoperators : ∀ p ∈ operatorPairs, isSkippable p.2 = false := by decide
  rintro (⟨-, hdigit⟩ | ⟨-, hletter⟩ | ⟨-, hoperator⟩)
  · rw [isDigit_of_isSkippable hc] at hdigit
    cases hdigit
  · rw [isLetter_of_isSkippable hc] at hletter
    cases hletter
  · cases hc.symm.trans (hoperators _ hoperator)

/-- Nor is a skippable character part of a `WellFormed` lexeme before it. -/
theorem not_joinedBy_skippable {l : Lexeme} (hl : l.WellFormed) {c : Char} (hc : isSkippable c) :
    ¬ l.JoinedBy c := by
  rw [← joinedBy_tokenAt_iff hl 0]
  exact not_joinedBy_of_isSkippable hc _

/-- `scan` reads what comes after a skippable character as if nothing stood before it. -/
theorem scan_gap {offset : Nat} {cs : List Char} {ts : List Token} (h : Scanned offset cs ts)
    {c : Char} (hc : isSkippable c) (after : List Char) :
    scan offset (cs ++ c :: after) =
      (scan (offset + byteLength cs + c.utf8Size) after).map (ts ++ ·) := by
  have hborder : ∀ t ∈ ts.getLast?, t.span.stop = offset + byteLength cs →
      ∀ d ∈ (c :: after).head?, ¬ t.JoinedBy d := by
    rintro t - - d hd
    obtain rfl : c = d := Option.some.inj hd
    exact not_joinedBy_of_isSkippable hc t
  rw [scan_append h _ hborder, scan_skip hc]

/-! ## Identifiers -/

/-- `wordKind` calls a text of letters an identifier if it is no reserved word, and only then. -/
theorem wordKind_eq_identifier_iff (word : List Char) :
    wordKind word = .identifier ↔ keyword? (String.ofList word) = none := by
  unfold wordKind
  cases hk : keyword? (String.ofList word) with
  | none => simp
  | some k =>
    obtain ⟨hkeyword, -⟩ := keyword?_eq_some_iff.1 hk
    cases k <;> simp [Kind.isKeyword] at hkeyword ⊢

/-- The value of an identifier `IsIdentifier`: no other text is read as one. -/
theorem isIdentifier_value {offset : Nat} {cs : List Char} {ts : List Token}
    (h : Scanned offset cs ts) {t : Token} (ht : t ∈ ts) (hkind : t.kind = .identifier) :
    IsIdentifier t.value := by
  obtain ⟨before, l, rest, -, rfl, hl, -⟩ := h.exists_lexeme ht
  rw [kind_tokenAt] at hkind
  rw [value_tokenAt]
  cases hl with
  -- Symbols have kinds of their own.
  | @alone s kind hs halone =>
    exact absurd hkind (Kind.ne_of_isSymbol (isSymbol_alone hs halone)).2.1
  | @pair s second kind hs hpair =>
    exact absurd hkind (Kind.ne_of_isSymbol (isSymbol_pair hs hpair)).2.1
  | number => cases hkind
  | string => cases hkind
  | @word letters hne hall =>
    rw [Lexeme.plain, IsIdentifier, String.toList_ofList]
    exact ⟨hne, List.all_eq_true.2 hall, (wordKind_eq_identifier_iff letters).1 hkind⟩

/-- An `IsIdentifier` is the text of a `WellFormed` lexeme. -/
theorem wellFormed_of_isIdentifier {name : String} (h : IsIdentifier name) :
    (Lexeme.plain .identifier name.toList).WellFormed := by
  obtain ⟨hne, hall, hkeyword⟩ := h
  have hkind : wordKind name.toList = .identifier := by
    rw [wordKind_eq_identifier_iff, String.ofList_toList, hkeyword]
  rw [← hkind]
  exact .word hne (List.all_eq_true.1 hall)

/-- An `IsIdentifier` before a skippable character is one token, and `scan` reads what comes after
the character as if nothing stood before it. -/
theorem scan_identifier {name : String} (h : IsIdentifier name) {c : Char} (hc : isSkippable c)
    (offset : Nat) (after : List Char) :
    scan offset (name.toList ++ c :: after) =
      (scan (offset + name.utf8ByteSize + c.utf8Size) after).map
        (⟨.identifier, name, ⟨offset, offset + name.utf8ByteSize⟩⟩ :: ·) := by
  have hl := wellFormed_of_isIdentifier h
  have htoken : tokenAt offset (.plain .identifier name.toList) =
      ⟨.identifier, name, ⟨offset, offset + name.utf8ByteSize⟩⟩ := by
    rw [tokenAt, Lexeme.plain, String.ofList_toList, Text.utf8ByteSize_eq]
  -- A skippable character does not join the identifier.
  have hhead : ∀ d ∈ (c :: after).head?, ¬ (Lexeme.plain .identifier name.toList).JoinedBy d := by
    rintro d hd
    obtain rfl : c = d := Option.some.inj hd
    exact not_joinedBy_skippable hl hc
  have hscan := scan_wellFormed hl hhead offset
  rwa [htoken, scan_skip hc, Lexeme.plain, ← Text.utf8ByteSize_eq] at hscan

/-- The tokens of two texts, with that of an identifier between them. -/
theorem scan_between {before after : List Char} {ts us : List Token} (hbefore : Scanned 0 before ts)
    (hafter : Scanned 0 after us) {name : String} (h : IsIdentifier name) :
    scan 0 (before ++ ' ' :: (name.toList ++ ' ' :: after)) =
      .ok (ts ++ ⟨.identifier, name,
          ⟨byteLength before + 1, byteLength before + 1 + name.utf8ByteSize⟩⟩ ::
        us.map (·.shift (byteLength before + 1 + name.utf8ByteSize + 1))) := by
  have hspace : isSkippable ' ' = true := by decide
  have hone : ' '.utf8Size = 1 := by decide
  have hmoved := scan_shift 0 (byteLength before + 1 + name.utf8ByteSize + 1) after
  rw [Nat.zero_add, scan_eq_ok_iff.2 hafter] at hmoved
  rw [scan_gap hbefore hspace, scan_identifier h hspace, Nat.zero_add, hone, hmoved]
  rfl

end Lexer

open Lexer

/-- A text with a space on both sides, between two sources that can be read, is read as an
identifier exactly if `IsIdentifier` holds of it; the tokens of the two sources are then as ever. -/
theorem tokenize_between_iff (first name second : String)
    (hsize : (first ++ " " ++ name ++ " " ++ second).utf8ByteSize ≤ offsetLimit)
    {tokens others : Array Token} (hfirst : tokenize first = .ok tokens)
    (hsecond : tokenize second = .ok others) :
    tokenize (first ++ " " ++ name ++ " " ++ second) =
      .ok (identifierBetween first name tokens others) ↔ IsIdentifier name := by
  have htext : (first ++ " " ++ name ++ " " ++ second).toList =
      first.toList ++ ' ' :: (name.toList ++ ' ' :: second.toList) := by
    simp
  have hbytes : (first ++ " " ++ name ++ " " ++ second).utf8ByteSize =
      first.utf8ByteSize + 1 + name.utf8ByteSize + 1 + second.utf8ByteSize := by
    simp only [String.utf8ByteSize_append]
    rfl
  have hsize₁ : first.utf8ByteSize ≤ offsetLimit := by omega
  have hsize₂ : second.utf8ByteSize ≤ offsetLimit := by omega
  constructor
  · intro hwhole
    obtain ⟨all, hall, harray⟩ := (tokenize_eq_ok_iff hsize).1 hwhole
    -- The identifier is one of the tokens of the whole, and not the one for the end.
    have hmem : (⟨.identifier, name, ⟨first.utf8ByteSize + 1,
        first.utf8ByteSize + 1 + name.utf8ByteSize⟩⟩ : Token) ∈
        all ++ [Token.eof (first ++ " " ++ name ++ " " ++ second).utf8ByteSize] := by
      rw [← List.mem_toArray, ← harray]
      simp [identifierBetween]
    rcases List.mem_append.1 hmem with ht | ht
    · exact isIdentifier_value hall ht rfl
    · cases List.mem_singleton.1 ht
  · intro hname
    obtain ⟨body, hbody, rfl⟩ := (tokenize_eq_ok_iff hsize₁).1 hfirst
    obtain ⟨rest, hrest, rfl⟩ := (tokenize_eq_ok_iff hsize₂).1 hsecond
    have hscan := scan_between hbody hrest hname
    rw [← Text.utf8ByteSize_eq] at hscan
    -- The end of the second source becomes the end of the whole.
    have hend : (Token.eof second.utf8ByteSize).shift
        (first.utf8ByteSize + 1 + name.utf8ByteSize + 1) =
        Token.eof (first ++ " " ++ name ++ " " ++ second).utf8ByteSize := by
      rw [Token.shift_eof, hbytes, Nat.add_comm]
    rw [tokenize_eq_scan hsize, htext, hscan, identifierBetween, hbody.filter_isEof_toArray]
    simp [Except.map, hend]

end ScriptCore
