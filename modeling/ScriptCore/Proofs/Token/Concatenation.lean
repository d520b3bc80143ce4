import ScriptCore.Proofs.Token.Scan

/-!
# Sources one after the other

Where a token ends the lexer remembers nothing but the place.  So the tokens of two sources written
one after the other are those of the first and, moved, those of the second, unless the first
character of the second source becomes part of the last token of the first.

* `scan_shift`: the place where a text begins moves its tokens and faults, and nothing else;
* `scan_append`: the tokens of a text do not depend on what comes after it, but for a joining
  character;
* `tokenize_append`: when two sources can be read separately, and what comes out.
-/

namespace ScriptCore

/-- The error at a place `offset` bytes further to the right. -/
def LexError.shift (e : LexError) (offset : Nat) : LexError :=
  { e with span := e.span.shift offset }

/-- The operators of one character, with the characters that make longer ones of them. -/
def operatorPairs : List (String × Char) :=
  [("+", '+'), ("+", '='), ("-", '-'), ("-", '='), ("*", '='), ("/", '='), ("^", '='),
   ("=", '='), ("!", '='), ("<", '='), (">", '=')]

/-- The token for the end moves with the end. -/
theorem Token.shift_eof (offset distance : Nat) :
    (Token.eof offset).shift distance = Token.eof (offset + distance) := rfl

/-- Whether a character right after the token becomes part of it. -/
def Token.JoinedBy (t : Token) (c : Char) : Prop :=
  (t.kind = .number ∧ c.isDigit) ∨
  ((t.kind = .identifier ∨ t.kind.isKeyword) ∧ isLetter c) ∨
  (t.kind ≠ .string ∧ (t.value, c) ∈ operatorPairs)

/-- Whether the border between two sources joins: the last token of the first source, given its
tokens, reaches the border, and the first character of the second one becomes part of it. -/
def Joins (tokens : Array Token) (first second : String) : Prop :=
  ∃ t ∈ (tokens.toList.filter (!·.isEof)).getLast?, t.span.stop = first.utf8ByteSize ∧
    ∃ c ∈ second.toList.head?, t.JoinedBy c

open Text (byteLength byteLength_append byteLength_cons byteLength_nil)

namespace Lexer

/-! ## The place of a text -/

/-- `tokenAt` is all about places: moving a token is placing its lexeme elsewhere. -/
theorem shift_tokenAt (offset distance : Nat) (l : Lexeme) :
    (tokenAt offset l).shift distance = tokenAt (offset + distance) l := by
  simp only [tokenAt, Token.shift, Span.shift, Token.mk.injEq, Span.mk.injEq, true_and]
  omega

/-- The span of a fault moves with the text. -/
theorem faultSpan_shift (offset distance : Nat) (cs : List Char) (fault : LexFault) :
    faultSpan (offset + distance) cs fault = (faultSpan offset cs fault).shift distance := by
  cases fault <;> simp only [faultSpan, Span.shift, Span.point, Span.mk.injEq, true_and] <;> omega

/-- `scan` of a text further to the right finds the same tokens further to the right, or the same
fault. -/
theorem scan_shift (offset distance : Nat) (cs : List Char) :
    scan (offset + distance) cs =
      ((scan offset cs).map (·.map (·.shift distance))).mapError (·.shift distance) := by
  fun_induction scan offset cs with
  | case1 offset => rw [scan_nil]; rfl
  | case2 offset c cs hc ih =>
    rw [scan_skip hc, Nat.add_right_comm]
    exact ih
  | case3 offset c cs hc fault hl =>
    rw [scan_fault (by simpa using hc) hl, faultSpan_shift]
    rfl
  | case4 offset c cs hc l rest hl _ ih =>
    rw [scan_lexeme (by simpa using hc) hl, Nat.add_right_comm, ih, ← shift_tokenAt]
    cases scan (offset + byteLength l.text) rest <;> rfl

/-- The tokens that are `Scanned` further to the right are those from here, moved. -/
theorem scanned_shift_iff {offset distance : Nat} {cs : List Char} {ts : List Token} :
    Scanned (offset + distance) cs ts ↔
      ∃ us, Scanned offset cs us ∧ us.map (·.shift distance) = ts := by
  simp only [← scan_eq_ok_iff, scan_shift]
  cases scan offset cs <;> simp [Except.map, Except.mapError]

/-! ## Joining, for lexemes and their tokens -/

/-- Each of the `operatorPairs` is listed in `symbols`. -/
private theorem operatorPairs_symbols : ∀ p ∈ operatorPairs, ∃ s ∈ symbols,
    p.1 = String.ofList [s.first] ∧ p.2 ∈ s.pairs.map Prod.fst := by
  decide

/-- The `operatorPairs` have all that is listed for `symbols` that may stand alone. -/
private theorem symbols_operatorPairs : ∀ s ∈ symbols, s.alone.isSome →
    ∀ p ∈ s.pairs, (String.ofList [s.first], p.1) ∈ operatorPairs := by
  decide

/-- A token is `JoinedBy` the characters that join its lexeme. -/
theorem joinedBy_tokenAt_iff {l : Lexeme} (hl : l.WellFormed) (offset : Nat) (c : Char) :
    (tokenAt offset l).JoinedBy c ↔ l.JoinedBy c := by
  unfold Token.JoinedBy Lexeme.JoinedBy
  rw [kind_tokenAt, value_tokenAt]
  -- Numbers and words are the same for both; what is left are symbols, which are their own value.
  refine or_congr Iff.rfl (or_congr Iff.rfl ⟨?_, ?_⟩)
  · rintro ⟨hkind, hmem⟩
    have hvalue : l.value = l.text := by
      rcases hl.value_eq with ⟨_, h⟩ | ⟨h, _⟩
      · exact h
      · exact absurd h hkind
    obtain ⟨s, hs, hfirst, hc⟩ := operatorPairs_symbols _ hmem
    exact ⟨s, hs, hvalue.symm.trans (String.ofList_inj.1 hfirst), hc⟩
  · rintro ⟨s, hs, htext, hc⟩
    have halone := hl.alone_eq hs htext
    have hkind := (Kind.ne_of_isSymbol (isSymbol_alone hs halone)).2.2.1
    have hvalue : l.value = [s.first] := by
      -- A token with the kind of a symbol is not a string, so its value is its text.
      rcases hl.value_eq with ⟨_, h⟩ | ⟨h, _⟩
      · rw [h, htext]
      · exact absurd h hkind
    obtain ⟨p, hp, rfl⟩ := List.mem_map.1 hc
    rw [hvalue]
    exact ⟨hkind, symbols_operatorPairs s hs (by rw [halone]; rfl) p hp⟩

/-! ## What comes after a text -/

/-- What comes after a text makes no difference to what `scan` finds in it, if it does not begin
with a character that joins the last token. -/
theorem scan_append {offset : Nat} {cs : List Char} {ts : List Token} (h : Scanned offset cs ts)
    (after : List Char)
    (hborder : ∀ t ∈ ts.getLast?, t.span.stop = offset + byteLength cs →
      ∀ c ∈ after.head?, ¬ t.JoinedBy c) :
    scan offset (cs ++ after) = (scan (offset + byteLength cs) after).map (ts ++ ·) := by
  induction h with
  | @nil offset =>
    rw [List.nil_append, byteLength_nil, Nat.add_zero]
    cases scan offset after <;> rfl
  | @skip offset c cs ts hc _ ih =>
    -- The border is where it was: the text is shorter, and begins later.
    rw [byteLength_cons, ← Nat.add_assoc] at hborder ⊢
    rw [List.cons_append, scan_skip hc]
    exact ih hborder
  | @lexeme offset l rest ts hl hhead hrest ih =>
    have hnext : ∀ d ∈ (rest ++ after).head?, ¬ l.JoinedBy d := by
      cases rest with
      -- What follows the lexeme is in the text itself, which was read already.
      | cons c rest => simpa using hhead
      | nil =>
        -- The lexeme is the last one, and it reaches the border.
        obtain rfl := hrest.eq_nil
        have hlast := hborder (tokenAt offset l) rfl (by simp)
        exact fun d hd hjoin => hlast d hd ((joinedBy_tokenAt_iff hl offset d).2 hjoin)
    -- The last of the other tokens is the last one of all.
    have hborder' : ∀ t ∈ ts.getLast?, t.span.stop = offset + byteLength l.text + byteLength rest →
        ∀ c ∈ after.head?, ¬ t.JoinedBy c := fun t ht hstop => by
      refine hborder t ?_ (by rw [hstop, byteLength_append, Nat.add_assoc])
      rw [List.getLast?_cons, Option.mem_def.1 ht]
      rfl
    rw [List.append_assoc, scan_wellFormed hl hnext, ih hborder', byteLength_append,
      Nat.add_assoc]
    cases scan (offset + (byteLength l.text + byteLength rest)) after <;> rfl

/-- A token that is `Scanned` from a text and reaches a place is not `JoinedBy` the character there.
-/
theorem not_joinedBy_of_stop {before after : List Char} {ts : List Token}
    (h : Scanned 0 (before ++ after) ts) {t : Token} (ht : t ∈ ts)
    (hstop : t.span.stop = byteLength before) : ∀ c ∈ after.head?, ¬ t.JoinedBy c := by
  obtain ⟨front, l, rest, hcs, rfl, hl, hhead⟩ := h.exists_lexeme ht
  rw [stop_tokenAt, Nat.zero_add, ← byteLength_append] at hstop
  rw [← List.append_assoc] at hcs
  obtain ⟨_, rfl⟩ := Text.append_inj_byteLength hcs hstop.symm
  exact fun c hc hjoin => hhead c hc ((joinedBy_tokenAt_iff hl _ c).1 hjoin)

end Lexer

open Lexer

/-- Two sources that can be read can be read one after the other, with the same tokens in their
places, exactly if the border does not join.  A fault of the second one is then found as well. -/
theorem tokenize_append (first second : String)
    (hsize : (first ++ second).utf8ByteSize ≤ offsetLimit) (tokens : Array Token)
    (hfirst : tokenize first = .ok tokens) :
    (∀ others, tokenize second = .ok others →
      (tokenize (first ++ second) =
        .ok (tokens.filter (!·.isEof) ++ others.map (·.shift first.utf8ByteSize)) ↔
        ¬ Joins tokens first second)) ∧
    (∀ e, tokenize second = .error e → ¬ Joins tokens first second →
      tokenize (first ++ second) = .error (e.shift first.utf8ByteSize)) := by
  have hbytes := hsize
  -- Both sources are short enough, since the whole is.
  rw [String.utf8ByteSize_append] at hbytes
  have hsize₁ : first.utf8ByteSize ≤ offsetLimit := by omega
  have hsize₂ : second.utf8ByteSize ≤ offsetLimit := by omega
  obtain ⟨body, hbody, rfl⟩ := (tokenize_eq_ok_iff hsize₁).1 hfirst
  -- If the border does not join, the second source is read as it would be alone.
  have hscan (hjoin : ¬ Joins (body ++ [Token.eof first.utf8ByteSize]).toArray first second) :
      scan 0 (first ++ second).toList =
        (((scan 0 second.toList).map (·.map (·.shift first.utf8ByteSize))).mapError
          (·.shift first.utf8ByteSize)).map (body ++ ·) := by
    -- The border in the sense of `Joins` is the border in the sense of `scan_append`.
    have hborder : ∀ t ∈ body.getLast?, t.span.stop = 0 + byteLength first.toList →
        ∀ c ∈ second.toList.head?, ¬ t.JoinedBy c := fun t ht hstop c hc hjoined => by
      refine hjoin ⟨t, ?_, ?_, c, hc, hjoined⟩
      · rwa [hbody.filter_isEof]
      · rw [hstop, Nat.zero_add, Text.utf8ByteSize_eq]
    rw [String.toList_append, scan_append hbody _ hborder, scan_shift, Text.utf8ByteSize_eq]
  have hkeep : (body ++ [Token.eof first.utf8ByteSize]).toArray.filter (!·.isEof) =
      body.toArray := by
    rw [← Array.toList_inj, Array.toList_filter, hbody.filter_isEof]
  refine ⟨fun others hothers => ⟨fun hwhole => ?_, fun hjoin => ?_⟩, fun e he hjoin => ?_⟩
  · -- The token at the border would be one of the whole, though it is joined there.
    rintro ⟨t, hlast, hstop, c, hc, hjoined⟩
    rw [hbody.filter_isEof] at hlast
    have htbody : t ∈ body := List.mem_of_getLast? hlast
    obtain ⟨all, hall, harray⟩ := (tokenize_eq_ok_iff hsize).1 hwhole
    have htall : t ∈ all ++ [Token.eof (first ++ second).utf8ByteSize] := by
      rw [← List.mem_toArray, ← harray, hkeep]
      exact Array.mem_append_left _ (List.mem_toArray.2 htbody)
    rcases List.mem_append.1 htall with ht | ht
    · rw [String.toList_append] at hall
      rw [Text.utf8ByteSize_eq] at hstop
      exact not_joinedBy_of_stop hall ht hstop c hc hjoined
    · obtain rfl := List.mem_singleton.1 ht
      exact nomatch hbody.isEof_eq_false htbody
  -- Without joining, the body of the second source comes after that of the first, and its end is
  -- the end.
  · obtain ⟨rest, hrest, rfl⟩ := (tokenize_eq_ok_iff hsize₂).1 hothers
    have hend : (Token.eof second.utf8ByteSize).shift first.utf8ByteSize =
        Token.eof (first ++ second).utf8ByteSize := by
      rw [String.utf8ByteSize_append, Nat.add_comm]
      rfl
    rw [tokenize_eq_scan hsize, hscan hjoin, scan_eq_ok_iff.2 hrest, hkeep]
    simp [Except.map, Except.mapError, hend]
  · rw [tokenize_eq_error_iff hsize₂] at he
    rw [tokenize_eq_error_iff hsize, hscan hjoin, he]
    rfl

/-- A plus sign before a minus sign does not join, though each of them joins another of its kind. -/
theorem tokenize_append_signs :
    ("a+" ++ "-1").utf8ByteSize ≤ offsetLimit ∧
    tokenize "a+" = .ok #[⟨.identifier, "a", ⟨0, 1⟩⟩, ⟨.binaryOperator, "+", ⟨1, 2⟩⟩, .eof 2] ∧
    tokenize "-1" = .ok #[⟨.binaryOperator, "-", ⟨0, 1⟩⟩, ⟨.number, "1", ⟨1, 2⟩⟩, .eof 2] ∧
    tokenize ("a+" ++ "-1") = .ok #[⟨.identifier, "a", ⟨0, 1⟩⟩, ⟨.binaryOperator, "+", ⟨1, 2⟩⟩,
      ⟨.binaryOperator, "-", ⟨2, 3⟩⟩, ⟨.number, "1", ⟨3, 4⟩⟩, .eof 4] := by
  have hsize : ("a+" ++ "-1").utf8ByteSize ≤ offsetLimit := by decide
  have hfirst : tokenize "a+" =
      .ok #[⟨.identifier, "a", ⟨0, 1⟩⟩, ⟨.binaryOperator, "+", ⟨1, 2⟩⟩, .eof 2] := by cbv
  have hsecond : tokenize "-1" =
      .ok #[⟨.binaryOperator, "-", ⟨0, 1⟩⟩, ⟨.number, "1", ⟨1, 2⟩⟩, .eof 2] := by cbv
  have hjoin : ¬ Joins #[⟨.identifier, "a", ⟨0, 1⟩⟩, ⟨.binaryOperator, "+", ⟨1, 2⟩⟩, .eof 2]
      "a+" "-1" := by
    rintro ⟨t, ht, _, c, hc, hjoined⟩
    obtain rfl : (⟨.binaryOperator, "+", ⟨1, 2⟩⟩ : Token) = t := Option.some.inj ht
    obtain rfl : '-' = c := Option.some.inj hc
    revert hjoined
    simp [Token.JoinedBy, Kind.isKeyword, operatorPairs]
  have happend := ((tokenize_append _ _ hsize _ hfirst).1 _ hsecond).2 hjoin
  exact ⟨hsize, hfirst, hsecond, happend.trans (by cbv)⟩

end ScriptCore
