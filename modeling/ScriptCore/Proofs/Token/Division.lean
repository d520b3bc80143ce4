import ScriptCore.Proofs.Token.Concatenation

/-!
# Cutting a source between its tokens

A source that can be read can be cut at any place that is not inside a token, and both pieces can be
read.  Their tokens are those of the whole source: the place is all that the lexer knows of what
stands before a token, and of what stands after one it needs at most that nothing joins.

* `Scanned.divide`: the tokens of a text are divided where the text is;
* `tokenize_division_iff`: a cut keeps the tokens exactly if it goes through none of them.
-/

namespace ScriptCore

/-- The place is inside the token: cutting there would cut the token. -/
def Token.Straddles (t : Token) (place : Nat) : Prop :=
  t.span.start < place ∧ place < t.span.stop

instance (t : Token) (place : Nat) : Decidable (t.Straddles place) :=
  inferInstanceAs (Decidable (_ ∧ _))

open Text (byteLength byteLength_append byteLength_cons byteLength_nil)

namespace Lexer.Scanned

/-- No token that is `Scanned` from a text reaches beyond it. -/
theorem stop_le {offset : Nat} {cs : List Char} {ts : List Token} (h : Scanned offset cs ts)
    {t : Token} (ht : t ∈ ts) : t.span.stop ≤ offset + byteLength cs := by
  obtain ⟨before, l, rest, rfl, rfl, -, -⟩ := h.exists_lexeme ht
  simp only [stop_tokenAt, byteLength_append]
  omega

/-- A text can be cut where no token `Straddles` the cut, and the tokens are then divided in the
same place. -/
theorem divide {offset : Nat} {before after : List Char} {ts : List Token}
    (h : Scanned offset (before ++ after) ts)
    (hcut : ∀ t ∈ ts, ¬ t.Straddles (offset + byteLength before)) :
    ∃ us vs, ts = us ++ vs ∧ Scanned offset before us ∧
      Scanned (offset + byteLength before) after vs := by
  -- What is left to read before the cut gets shorter as the tokens are taken one by one.
  generalize hcs : before ++ after = cs at h
  induction h generalizing before with
  | @nil offset =>
    obtain ⟨rfl, rfl⟩ := List.append_eq_nil_iff.1 hcs
    exact ⟨[], [], rfl, .nil, .nil⟩
  | @skip offset c cs ts hc hrest ih =>
    -- Either the cut comes first, or the character is dropped before it.
    cases before with
    | nil =>
      obtain rfl : after = c :: cs := hcs
      exact ⟨[], ts, rfl, .nil, .skip hc hrest⟩
    | cons d before =>
      obtain ⟨rfl, htail⟩ := List.cons.inj hcs
      rw [byteLength_cons, ← Nat.add_assoc] at hcut
      obtain ⟨us, vs, rfl, hus, hvs⟩ := ih hcut htail
      rw [byteLength_cons, ← Nat.add_assoc]
      exact ⟨us, vs, rfl, .skip hc hus, hvs⟩
  | @lexeme offset l rest ts hl hhead hrest ih =>
    have ⟨hfirst, hothers⟩ := List.forall_mem_cons.1 hcut
    -- If the cut comes after the lexeme, the rest is cut.
    have hbeyond : ∀ more, before = l.text ++ more → more ++ after = rest →
        ∃ us vs, tokenAt offset l :: ts = us ++ vs ∧ Scanned offset before us ∧
          Scanned (offset + byteLength before) after vs := by
      rintro more rfl rfl
      rw [byteLength_append, ← Nat.add_assoc] at hothers ⊢
      obtain ⟨us, vs, rfl, hus, hvs⟩ := ih hothers rfl
      exact ⟨tokenAt offset l :: us, vs, rfl, .lexeme hl (forall_head?_of_append hhead) hus, hvs⟩
    -- The cut comes inside the lexeme, or after it.
    rcases List.append_eq_append_iff.1 hcs with ⟨more, htext, hafter⟩ | ⟨more, hbefore, hmore⟩
    · cases before with
      | nil =>
        obtain rfl : l.text = more := htext
        rw [hafter]
        exact ⟨[], _, rfl, .nil, .lexeme hl hhead hrest⟩
      | cons d before =>
        cases more with
        | nil => exact hbeyond [] (by simpa using htext.symm) hafter
        | cons e more =>
          -- The cut goes through the lexeme, which has a character on both sides of it.
          have hd := d.utf8Size_pos
          have he := e.utf8Size_pos
          have hlength := congrArg byteLength htext
          simp only [byteLength_append, byteLength_cons] at hlength
          simp only [Token.Straddles, start_tokenAt, stop_tokenAt, byteLength_cons] at hfirst
          omega
    · exact hbeyond more hbefore hmore.symm

end Lexer.Scanned

open Lexer

/-- Where a source that can be read is cut in two, both pieces can be read and have the tokens of
the whole between them, those of the second one moved to its place, exactly if no token `Straddles`
the cut. -/
theorem tokenize_division_iff (first second : String) (tokens : Array Token)
    (h : tokenize (first ++ second) = .ok tokens) :
    (∃ others more, tokenize first = .ok others ∧ tokenize second = .ok more ∧
      others.filter (!·.isEof) ++ more.map (·.shift first.utf8ByteSize) = tokens) ↔
    ∀ t ∈ tokens, ¬ t.Straddles first.utf8ByteSize := by
  obtain ⟨hsize, body, hbody, rfl⟩ := scanned_of_tokenize h
  rw [String.utf8ByteSize_append] at hsize
  constructor
  · rintro ⟨others, more, hothers, hmore, heq⟩ t ht
    rw [← heq, Array.mem_append] at ht
    rcases ht with ht | ht
    · -- A token of the first piece does not reach beyond it.
      obtain ⟨-, us, hus, rfl⟩ := scanned_of_tokenize hothers
      rw [hus.filter_isEof_toArray, List.mem_toArray] at ht
      have hstop := hus.stop_le ht
      rw [← Text.utf8ByteSize_eq] at hstop
      unfold Token.Straddles
      omega
    · -- A token of the second piece begins in it.
      obtain ⟨u, -, rfl⟩ := Array.mem_map.1 ht
      unfold Token.Straddles
      simp only [Token.shift, Span.shift]
      omega
  · intro hcut
    rw [String.toList_append] at hbody
    have hwithin : ∀ t ∈ body, ¬ t.Straddles (0 + byteLength first.toList) := fun t ht => by
      rw [Nat.zero_add, ← Text.utf8ByteSize_eq]
      exact hcut t (by simp [ht])
    obtain ⟨us, vs, rfl, hus, hvs⟩ := hbody.divide hwithin
    -- The tokens of the second piece are those of a text at the beginning, moved.
    obtain ⟨ws, hws, rfl⟩ := scanned_shift_iff.1 hvs
    have hfirst := (tokenize_eq_ok_iff (by omega)).2 ⟨us, hus, rfl⟩
    have hsecond := (tokenize_eq_ok_iff (by omega)).2 ⟨ws, hws, rfl⟩
    refine ⟨_, _, hfirst, hsecond, ?_⟩
    rw [hus.filter_isEof_toArray]
    simp [Token.shift_eof, Text.utf8ByteSize_eq, Nat.add_comm]

/-- Two operators that stand next to each other, after a string with a character of two bytes. -/
theorem tokenize_division_signs :
    tokenize ("x='é'+" ++ "-1") = .ok #[⟨.identifier, "x", ⟨0, 1⟩⟩, ⟨.equals, "=", ⟨1, 2⟩⟩,
      ⟨.string, "é", ⟨2, 6⟩⟩, ⟨.binaryOperator, "+", ⟨6, 7⟩⟩, ⟨.binaryOperator, "-", ⟨7, 8⟩⟩,
      ⟨.number, "1", ⟨8, 9⟩⟩, .eof 9] ∧
    "x='é'+".utf8ByteSize = 7 ∧
    ∃ others more, tokenize "x='é'+" = .ok others ∧ tokenize "-1" = .ok more ∧
      others.filter (!·.isEof) ++ more.map (·.shift 7) = #[⟨.identifier, "x", ⟨0, 1⟩⟩,
        ⟨.equals, "=", ⟨1, 2⟩⟩, ⟨.string, "é", ⟨2, 6⟩⟩, ⟨.binaryOperator, "+", ⟨6, 7⟩⟩,
        ⟨.binaryOperator, "-", ⟨7, 8⟩⟩, ⟨.number, "1", ⟨8, 9⟩⟩, .eof 9] := by
  have hwhole : tokenize ("x='é'+" ++ "-1") = .ok #[⟨.identifier, "x", ⟨0, 1⟩⟩,
      ⟨.equals, "=", ⟨1, 2⟩⟩, ⟨.string, "é", ⟨2, 6⟩⟩, ⟨.binaryOperator, "+", ⟨6, 7⟩⟩,
      ⟨.binaryOperator, "-", ⟨7, 8⟩⟩, ⟨.number, "1", ⟨8, 9⟩⟩, .eof 9] := by cbv
  have hplace : "x='é'+".utf8ByteSize = 7 := by decide
  have hpieces := (tokenize_division_iff _ _ _ hwhole).2 (by decide)
  rw [hplace] at hpieces
  exact ⟨hwhole, hplace, hpieces⟩

end ScriptCore
