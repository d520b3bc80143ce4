import ScriptCore.Proofs.Token.Scan
import ScriptCore.Proofs.Token.Scanner

/-!
# The scanner comes to an end

The loop of the scanner goes on until no character is left, and nothing counts its rounds.  It ends
all the same, since every round that does not fail passes the character that it was called for.

* `Scanner.Advances`: what a round that does not fail does to the scanner;
* `Scanner.exists_round`: every round advances, or it fails and leaves the tokens;
* `Scanner.Runs`: the loop, with the number of its rounds;
* `Scanner.progresses_of_size`: the loop ends for every source, after a round for each character at
  most, with the tokens of the source or with its fault.
-/

namespace ScriptCore

open Text (byteLength byteLength_append byteLength_cons byteLength_nil)

/-- Where `Cursor.current?` is a character, the cursor stands in front of it. -/
theorem Cursor.exists_stands {c : Cursor} {x : Char} (h : c.current? = some x) :
    ∃ before after, c.Stands before (x :: after) := by
  rw [current?, rest] at h
  -- Inside a character there would be no split, and nothing ahead.
  cases hsplit : Text.splitAtByte? c.offset c.source.toList with
  | none => simp [hsplit] at h
  | some pieces =>
    obtain ⟨before, rest⟩ := pieces
    obtain ⟨htext, hlength⟩ := Text.eq_append_of_splitAtByte? hsplit
    simp only [hsplit, Option.map_some, Option.getD_some, List.head?_eq_some_iff] at h
    obtain ⟨after, rfl⟩ := h
    exact ⟨before, after, htext, hlength.symm⟩

namespace Scanner

variable {s next : Scanner} {c : Char} {cs before after : List Char} {n m : Nat}
  {result other : Except LexError (Array Token)} {tokens : Array Token} {source : String}

/-! ## One round -/

/-- The scanner has passed the character `c`, and others perhaps, and has added one token at most. -/
structure Advances (s next : Scanner) (c : Char) : Prop where
  source_eq : next.cursor.source = s.cursor.source
  passed : ∃ before piece after, s.cursor.Stands before (c :: piece ++ after) ∧
    next.cursor.Stands (before ++ c :: piece) after
  tokens : next.tokens = s.tokens ∨ ∃ t, next.tokens = s.tokens.push t

/-- A round of `nextToken?` reads on, or it fails and leaves the tokens as they were. -/
theorem exists_round (hcurrent : s.cursor.current? = some c) :
    (∃ next, s.nextToken? c = some (.read next) ∧ s.Advances next c) ∨
    ∃ e next, s.nextToken? c = some (.failed e next) ∧ next.tokens = s.tokens := by
  obtain ⟨before, cs, h⟩ := Cursor.exists_stands hcurrent
  cases hc : isSkippable c with
  -- What is dropped is passed, and makes no token.
  | true =>
    have hround : s.nextToken? c = some (.read s.advance) := by rw [nextToken?, if_pos hc]
    refine .inl ⟨s.advance, hround, ?_, ⟨before, [], cs, h, ?_⟩, .inl rfl⟩
    · rw [advance_eq h]
      rfl
    · rw [advance_eq h]
      exact stands_moveTo h
  | false =>
    rw [nextToken?_eq h hc]
    cases hread : Lexer.nextLexeme c cs with
    | error fault => exact .inr ⟨_, _, rfl, rfl⟩
    | ok taken =>
      obtain ⟨l, rest⟩ := taken
      -- The lexeme begins with the character.
      obtain ⟨first, piece, htext⟩ :=
        List.exists_cons_of_ne_nil (Lexer.nextLexeme_text_ne_nil hread)
      have hsplit := Lexer.nextLexeme_text hread
      rw [htext, List.cons_append, List.cons.injEq] at hsplit
      obtain ⟨rfl, rfl⟩ := hsplit
      have hstands : (s.take l).cursor.Stands (before ++ c :: piece) rest := by
        have hpiece : s.cursor.Stands before ((c :: piece) ++ rest) := h
        rw [take, htext]
        exact stands_moveTo hpiece
      exact .inl ⟨s.take l, rfl, rfl, ⟨before, piece, rest, h, hstands⟩, .inr ⟨_, rfl⟩⟩

namespace Advances

/-- The cursor passes the first character at least. -/
theorem offset_le (h : s.Advances next c) :
    s.cursor.offset + c.utf8Size ≤ next.cursor.offset := by
  obtain ⟨before, piece, after, hs, hnext⟩ := h.passed
  rw [hs.offset_eq, hnext.offset_eq, byteLength_append, byteLength_cons]
  omega

/-- Less is left after a round that `Advances`. -/
theorem length_lt (h : s.Advances next c) :
    next.cursor.rest.length < s.cursor.rest.length := by
  obtain ⟨before, piece, after, hs, hnext⟩ := h.passed
  rw [hs.rest_eq, hnext.rest_eq, List.cons_append, List.length_cons, List.length_append]
  omega

/-- A round adds one token at most. -/
theorem size_le (h : s.Advances next c) : next.tokens.size ≤ s.tokens.size + 1 := by
  obtain htokens | ⟨t, htokens⟩ := h.tokens
  · rw [htokens]
    exact Nat.le_succ _
  · rw [htokens, Array.size_push]

end Advances

/-! ## The loop -/

/-- The loop over the characters, with the number of rounds after which it ends and its result. -/
inductive Runs : Scanner → Nat → Except LexError (Array Token) → Prop where
  | done {s : Scanner} (hcurrent : s.cursor.current? = none) :
    Runs s 0 (.ok (s.tokens.push (.eof s.cursor.offset)))
  | failed {s next : Scanner} {c : Char} {e : LexError} (hcurrent : s.cursor.current? = some c)
    (hround : s.nextToken? c = some (.failed e next)) : Runs s 1 (.error e)
  | read {s next : Scanner} {c : Char} {n : Nat} {result : Except LexError (Array Token)}
    (hcurrent : s.cursor.current? = some c) (hround : s.nextToken? c = some (.read next))
    (rest : Runs next n result) : Runs s (n + 1) result

namespace Runs

/-- Where a character is, the loop of `Runs` goes on with its round. -/
theorem cases_of_current (h : s.Runs n result) (hcurrent : s.cursor.current? = some c) :
    (∃ e next, s.nextToken? c = some (.failed e next) ∧ n = 1 ∧ result = .error e) ∨
    ∃ next k, s.nextToken? c = some (.read next) ∧ n = k + 1 ∧ next.Runs k result := by
  cases h with
  | done hend => cases hcurrent.symm.trans hend
  | failed hcurrent' hround =>
    cases hcurrent.symm.trans hcurrent'
    exact .inl ⟨_, _, hround, rfl, rfl⟩
  | read hcurrent' hround rest =>
    cases hcurrent.symm.trans hcurrent'
    exact .inr ⟨_, _, hround, rfl, rest⟩

/-- The loop of `Runs` has one end, after one number of rounds. -/
theorem unique (h : s.Runs n result) (h' : s.Runs m other) : m = n ∧ other = result := by
  -- `nextToken?` is a function, so both runs take the same rounds.
  induction h generalizing m with
  | done hend =>
    cases h' with
    | done => exact ⟨rfl, rfl⟩
    | failed hcurrent | read hcurrent => cases hcurrent.symm.trans hend
  | failed hcurrent hround =>
    obtain ⟨e, next, hround', rfl, rfl⟩ | ⟨next, k, hround', -⟩ := h'.cases_of_current hcurrent
    · cases hround.symm.trans hround'
      exact ⟨rfl, rfl⟩
    · cases hround.symm.trans hround'
  | read hcurrent hround _ ih =>
    obtain ⟨e, next, hround', -⟩ | ⟨next, k, hround', rfl, rest⟩ := h'.cases_of_current hcurrent
    · cases hround.symm.trans hround'
    · cases hround.symm.trans hround'
      obtain ⟨rfl, rfl⟩ := ih rest
      exact ⟨rfl, rfl⟩

/-- A round that reads on `Advances`. -/
theorem advances_of_read (hcurrent : s.cursor.current? = some c)
    (hround : s.nextToken? c = some (.read next)) : s.Advances next c := by
  obtain ⟨next', hround', hadvances⟩ | ⟨e, next', hround', -⟩ := exists_round hcurrent
  · cases hround.symm.trans hround'
    exact hadvances
  · cases hround.symm.trans hround'

/-- There is a round for each character that is left, at most. -/
theorem le_length (h : s.Runs n result) : n ≤ s.cursor.rest.length := by
  induction h with
  | done => exact Nat.zero_le _
  | failed hcurrent =>
    obtain ⟨before, cs, hstands⟩ := Cursor.exists_stands hcurrent
    rw [hstands.rest_eq, List.length_cons]
    omega
  | read hcurrent hround _ ih =>
    have hlength := (advances_of_read hcurrent hround).length_lt
    omega

/-- There is a token for each round, at most, and one for the end. -/
theorem size_le (h : s.Runs n (.ok tokens)) : tokens.size ≤ s.tokens.size + n + 1 := by
  generalize hresult : Except.ok tokens = result at h
  induction h with
  | done =>
    cases hresult
    rw [Array.size_push, Nat.add_zero]
  | failed => cases hresult
  | read hcurrent hround _ ih =>
    have hsize := (advances_of_read hcurrent hround).size_le
    have hrest := ih hresult
    omega

end Runs

/-- A step of `Reading` goes over a piece of the text. -/
theorem exists_piece_of_step {r after : Reading} (h : r.step c cs = .ok after) :
    ∃ piece, c :: cs = piece ++ after.rest ∧ after.offset = r.offset + byteLength piece := by
  unfold Reading.step at h
  split at h
  · -- One character was dropped.
    cases h
    exact ⟨[c], rfl, by rw [byteLength_cons, byteLength_nil, Nat.add_zero]⟩
  · split at h
    · cases h
    next l rest hread =>
      cases h
      exact ⟨l.text, Lexer.nextLexeme_text hread, rfl⟩

/-- The loop of `Runs` ends with the result of `Reading.run`. -/
theorem exists_runs {r : Reading} (hr : s.reading = r) (h : s.cursor.Stands before r.rest) :
    ∃ n, s.Runs n r.run := by
  -- Induction on the reading, of which each step is a round.
  fun_induction Reading.run r generalizing s before with
  | case1 r hrest =>
    subst hr
    rw [hrest] at h
    exact ⟨0, .done (h.current?_eq_none_iff.2 rfl)⟩
  | case2 r c cs hrest e hstep =>
    subst hr
    rw [hrest] at h
    have hround := nextToken?_eq_step h
    rw [hstep] at hround
    exact ⟨1, .failed h.current?_eq hround⟩
  | case3 r c cs hrest after hstep _ ih =>
    subst hr
    rw [hrest] at h
    have hround := nextToken?_eq_step h
    rw [hstep] at hround
    obtain ⟨piece, htext, hoffset⟩ := exists_piece_of_step hstep
    -- After the step the cursor stands behind the piece that was read.
    have hafter : (s.moveTo after.offset).cursor.Stands (before ++ piece) after.rest := by
      rw [hoffset]
      exact stands_moveTo (htext ▸ h)
    obtain ⟨n, hn⟩ := ih (s := ⟨(s.moveTo after.offset).cursor, after.tokens⟩)
      (by rw [reading, hafter.rest_eq]; rfl) hafter
    exact ⟨n + 1, .read h.current?_eq hround hn⟩

/-! ## All states of a source -/

/-- The loop over a source comes to a state. -/
inductive Reached (source : String) : Scanner → Prop where
  | start : Reached source (.ofSource source)
  | read {s next : Scanner} {c : Char} (hs : Reached source s)
    (hcurrent : s.cursor.current? = some c) (hround : s.nextToken? c = some (.read next)) :
    Reached source next

/-- A state that is `Reached` is between two characters of the source. -/
theorem Reached.stands (h : Reached source s) :
    s.cursor.source = source ∧ ∃ before after, s.cursor.Stands before after := by
  induction h with
  | start => exact ⟨rfl, [], source.toList, .ofSource source⟩
  | read _ hcurrent hround ih =>
    have hadvances := Runs.advances_of_read hcurrent hround
    obtain ⟨before, piece, after, -, hnext⟩ := hadvances.passed
    exact ⟨hadvances.source_eq.trans ih.1, _, _, hnext⟩

/-- What the scanner does in each round over a source, and how it ends. -/
structure Progresses (source : String) : Prop where
  /-- The cursor is between two characters, and its offset has 32 bits. -/
  stands : ∀ s, Reached source s → s.cursor.source = source ∧
    (∃ before after, s.cursor.Stands before after) ∧
    s.cursor.offset ≤ source.utf8ByteSize ∧ s.cursor.offset ≤ offsetLimit
  /-- Every round has an outcome: it advances, or it fails and leaves the tokens. -/
  round : ∀ s c, Reached source s → s.cursor.current? = some c →
    (∃ next, s.nextToken? c = some (.read next) ∧ s.Advances next c ∧
      s.cursor.offset + c.utf8Size ≤ next.cursor.offset ∧
      next.cursor.offset ≤ source.utf8ByteSize) ∨
    ∃ e next, s.nextToken? c = some (.failed e next) ∧ next.tokens = s.tokens
  /-- The loop ends, and with the result for the source. -/
  ends : ∃ n, Runs (.ofSource source) n (tokenize source)
  /-- It ends in no other way, and there are no more rounds than characters. -/
  rounds_le : ∀ n result, Runs (.ofSource source) n result →
    result = tokenize source ∧ n ≤ source.length
  /-- There are no more tokens than rounds, but for the one for the end. -/
  tokens_le : ∀ n ts, Runs (.ofSource source) n (.ok ts) →
    ∃ body : Array Token, ts = body.push (.eof source.utf8ByteSize) ∧ body.size ≤ n

/-- The scanner `Progresses` through every source whose offsets have 32 bits. -/
theorem progresses_of_size (hsize : source.utf8ByteSize ≤ offsetLimit) : Progresses source := by
  have hstart := Cursor.Stands.ofSource source
  obtain ⟨n, hn⟩ : ∃ n, Runs (.ofSource source) n (tokenize source) := by
    rw [tokenize, if_pos hsize]
    refine exists_runs ?_ hstart
    rw [reading, ofSource, hstart.rest_eq]
    rfl
  -- Between characters of the source no offset is beyond its length.
  have hstands (s : Scanner) (hs : Reached source s) : s.cursor.source = source ∧
      (∃ before after, s.cursor.Stands before after) ∧
      s.cursor.offset ≤ source.utf8ByteSize ∧ s.cursor.offset ≤ offsetLimit := by
    obtain ⟨hsource, before, after, h⟩ := hs.stands
    have hle := h.offset_le
    rw [Cursor.sourceLength, hsource] at hle
    exact ⟨hsource, ⟨before, after, h⟩, hle, Nat.le_trans hle hsize⟩
  exact {
    stands := hstands
    round := fun s c hs hcurrent => by
      obtain ⟨next, hround, hadvances⟩ | hfailed := exists_round hcurrent
      · obtain ⟨-, -, hle, -⟩ := hstands next (.read hs hcurrent hround)
        exact .inl ⟨next, hround, hadvances, hadvances.offset_le, hle⟩
      · exact .inr hfailed
    ends := ⟨n, hn⟩
    rounds_le := fun m result hm => by
      have hle := hm.le_length
      rw [ofSource, hstart.rest_eq, String.length_toList] at hle
      exact ⟨(hn.unique hm).2, hle⟩
    tokens_le := fun m ts hm => by
      have hsize := hm.size_le
      -- The result is that of `tokenize`, whose last token is the one for the end.
      obtain ⟨-, body, -, rfl⟩ := Lexer.scanned_of_tokenize (hn.unique hm).2.symm
      rw [List.size_toArray, List.length_append, List.length_singleton, ofSource,
        Array.size_empty] at hsize
      exact ⟨body.toArray, by rw [List.push_toArray], by rw [List.size_toArray]; omega⟩ }

/-- Six characters, of which the last three make one token. -/
theorem progresses_of_size_string :
    "x ='é'".utf8ByteSize ≤ offsetLimit ∧ Progresses "x ='é'" ∧
    ∃ n ≤ 6, Runs (.ofSource "x ='é'") n (.ok #[⟨.identifier, "x", ⟨0, 1⟩⟩,
      ⟨.equals, "=", ⟨2, 3⟩⟩, ⟨.string, "é", ⟨3, 7⟩⟩, ⟨.eof, "EndOfFile", ⟨7, 7⟩⟩]) := by
  have hsize : "x ='é'".utf8ByteSize ≤ offsetLimit := by decide
  have hprogresses := progresses_of_size hsize
  have htokens : tokenize "x ='é'" = .ok #[⟨.identifier, "x", ⟨0, 1⟩⟩, ⟨.equals, "=", ⟨2, 3⟩⟩,
      ⟨.string, "é", ⟨3, 7⟩⟩, ⟨.eof, "EndOfFile", ⟨7, 7⟩⟩] := by cbv
  obtain ⟨n, hn⟩ := hprogresses.ends
  have hle := (hprogresses.rounds_le n _ hn).2
  exact ⟨hsize, hprogresses, n, hle, htokens ▸ hn⟩

end Scanner

end ScriptCore
