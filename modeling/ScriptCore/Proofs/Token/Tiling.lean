import ScriptCore.Proofs.Token.Scan

/-!
# Tokens tile their source

Nothing of a source is lost in its tokens: they stand in order, on character boundaries, without
overlapping, and what is between them can be skipped.  `Tiling` puts this together for the tokens of
a source, and `tokenize_tiling` says that it holds of every source that can be read.

The text read so far is carried through the proofs as `before`: a token of `cs` has its place in the
source `before ++ cs`.
-/

namespace ScriptCore.Lexer

open Text (byteLength byteLength_append byteLength_cons byteLength_nil)

/-- An offset at which the source can be cut between two characters. -/
def IsBoundary (source : String) (offset : Nat) : Prop :=
  ∃ before after, source.toList = before ++ after ∧ byteLength before = offset

/-- The text from an offset on, put together from the tokens and what is between them. -/
def rebuild (source : String) (offset : Nat) : List Token → Option String
  | [] => (Span.mk offset source.utf8ByteSize).text? source
  | t :: ts => do
    let gap ← (Span.mk offset t.span.start).text? source
    let text ← t.span.text? source
    let rest ← rebuild source t.span.stop ts
    return gap ++ text ++ rest

/-- The text of the token in the source: the value, between quotes if it is a string. -/
def HasText (source : String) (t : Token) : Prop :=
  if t.kind = .string then
    ∃ quote ∈ ['"', '\''], quote ∉ t.value.toList ∧
      t.span.text? source = some (quote.toString ++ t.value ++ quote.toString)
  else t.span.text? source = some t.value

/-- The tokens `body` and the one for the end cover the source without loss. -/
structure Tiling (source : String) (body : List Token) (last : Token) : Prop where
  /-- The last token, and only it, marks the end. -/
  body_kind : ∀ t ∈ body, t.kind ≠ .eof
  last_kind : last.kind = .eof
  last_value : last.value = "EndOfFile"
  last_span : last.span = ⟨source.utf8ByteSize, source.utf8ByteSize⟩
  /-- The other ones cover at least one character each, and whole characters. -/
  start_lt_stop : ∀ t ∈ body, t.span.start < t.span.stop
  boundary : ∀ t ∈ body, IsBoundary source t.span.start ∧ IsBoundary source t.span.stop
  /-- They are in order and do not overlap. -/
  ordered : body.Pairwise fun t u => t.span.start < u.span.start ∧ t.span.stop ≤ u.span.start
  /-- A character that none of them covers is skippable. -/
  skipped : ∀ before c after, source.toList = before ++ c :: after →
    (∀ t ∈ body, ¬ (t.span.start ≤ byteLength before ∧ byteLength before < t.span.stop)) →
    isSkippable c
  /-- With what is between them they give the source back. -/
  rebuilt : rebuild source 0 body = some source
  hasText : ∀ t ∈ body, HasText source t

/-! ## One token in its place -/

/-- `Span.text?` between the borders of a piece of the source is the piece. -/
theorem text?_of_append {source : String} {before piece after : List Char}
    (h : source.toList = before ++ (piece ++ after)) :
    (Span.mk (byteLength before) (byteLength before + byteLength piece)).text? source =
      some (String.ofList piece) := by
  rw [Span.text?, h, Text.slice?_append, Option.map_some]

section Place

variable {source : String} {before after : List Char} {l : Lexeme}

/-- The span of `tokenAt` covers the text of its lexeme. -/
theorem text?_tokenAt (h : source.toList = before ++ (l.text ++ after)) :
    (tokenAt (byteLength before) l).span.text? source = some (String.ofList l.text) :=
  text?_of_append h

/-- `tokenAt` begins and ends between characters. -/
theorem boundary_tokenAt (h : source.toList = before ++ (l.text ++ after)) :
    IsBoundary source (tokenAt (byteLength before) l).span.start ∧
    IsBoundary source (tokenAt (byteLength before) l).span.stop :=
  ⟨⟨before, _, h, rfl⟩, ⟨before ++ l.text, after, by rw [h, List.append_assoc],
    byteLength_append _ _⟩⟩

/-- `tokenAt` covers at least one character. -/
theorem start_lt_stop_tokenAt (hl : l.WellFormed) (offset : Nat) :
    (tokenAt offset l).span.start < (tokenAt offset l).span.stop := by
  have := Text.byteLength_pos hl.text_ne_nil
  rw [start_tokenAt, stop_tokenAt]
  omega

/-- The value of a `WellFormed` lexeme is its text, but for the quotes of a string. -/
theorem hasText_tokenAt (hl : l.WellFormed) (h : source.toList = before ++ (l.text ++ after)) :
    HasText source (tokenAt (byteLength before) l) := by
  have htext := text?_tokenAt h
  rcases hl.value_eq with ⟨hkind, hvalue⟩ | ⟨hkind, quote, hq, hnot, hquoted⟩
  · rw [HasText, kind_tokenAt, if_neg hkind, htext, value_tokenAt, hvalue]
  · rw [HasText, kind_tokenAt, if_pos hkind]
    refine ⟨quote, by simpa [isQuote] using hq, by simpa using hnot, ?_⟩
    rw [htext, hquoted, Option.some_inj, ← String.toList_inj]
    simp

end Place

/-! ## All tokens of a text -/

namespace Scanned

/-- No token begins before the text that it is `Scanned` from. -/
theorem offset_le {offset : Nat} {cs : List Char} {ts : List Token} (h : Scanned offset cs ts)
    {t : Token} (ht : t ∈ ts) : offset ≤ t.span.start := by
  obtain ⟨before, l, rest, _, rfl, _, _⟩ := h.exists_lexeme ht
  rw [start_tokenAt]
  omega

/-- The tokens that are `Scanned` are in order and do not overlap. -/
theorem ordered {offset : Nat} {cs : List Char} {ts : List Token} (h : Scanned offset cs ts) :
    ts.Pairwise fun t u => t.span.start < u.span.start ∧ t.span.stop ≤ u.span.start := by
  induction h with
  | nil => exact .nil
  | skip _ _ ih => exact ih
  | @lexeme offset l rest ts hl _ hrest ih =>
    refine .cons (fun u hu => ?_) ih
    -- The next token begins at the end of the first one at the earliest.
    have hpos := start_lt_stop_tokenAt hl offset
    have hle := hrest.offset_le hu
    rw [stop_tokenAt] at hpos ⊢
    omega

/-- A character of a text that no token covers is skippable. -/
theorem skipped {offset : Nat} {cs : List Char} {ts : List Token} (h : Scanned offset cs ts)
    {before after : List Char} {c : Char} (hcs : cs = before ++ c :: after)
    (hfree : ∀ t ∈ ts, ¬ (t.span.start ≤ offset + byteLength before ∧
      offset + byteLength before < t.span.stop)) : isSkippable c := by
  induction h generalizing before with
  | nil => simp at hcs
  | @skip offset d cs ts hd _ ih =>
    -- The character is the one that was dropped, or it comes after it.
    cases before with
    | nil =>
      obtain ⟨rfl, _⟩ := List.cons.inj hcs
      exact hd
    | cons e before =>
      obtain ⟨rfl, rfl⟩ := List.cons.inj hcs
      exact ih rfl (by simpa only [byteLength_cons, Nat.add_assoc] using hfree)
  | @lexeme offset l rest ts hl _ _ ih =>
    have ⟨hfirst, hothers⟩ := List.forall_mem_cons.1 hfree
    have ih' : ∀ before' : List Char, before = l.text ++ before' →
        rest = before' ++ c :: after → isSkippable c := fun before' hbefore hrest => by
      rw [hbefore, byteLength_append, ← Nat.add_assoc] at hothers
      exact ih hrest hothers
    -- The character comes after the lexeme, or it is one of its own.
    rcases List.append_eq_append_iff.1 hcs with ⟨more, hbefore, hrest⟩ | ⟨more, htext, hafter⟩
    · exact ih' more hbefore hrest
    · cases more with
      | nil => exact ih' [] (by simpa using htext.symm) hafter.symm
      | cons d more =>
        -- The character stands inside the lexeme, so the token covers it.
        have hpos := d.utf8Size_pos
        rw [start_tokenAt, stop_tokenAt, htext, byteLength_append, byteLength_cons] at hfirst
        omega

/-- `rebuild` of the tokens of a text gives the text back, after a gap that stands before it. -/
theorem rebuild_eq {source : String} {offset : Nat} {cs : List Char} {ts : List Token}
    (h : Scanned offset cs ts) (before gap : List Char)
    (hsource : source.toList = before ++ (gap ++ cs))
    (hoffset : byteLength before + byteLength gap = offset) :
    rebuild source (byteLength before) ts = some (String.ofList (gap ++ cs)) := by
  induction h generalizing before gap with
  | @nil offset =>
    have hsize : source.utf8ByteSize = byteLength before + byteLength gap := by
      simp [Text.utf8ByteSize_eq, hsource]
    rw [rebuild, hsize, text?_of_append hsource, List.append_nil]
  | @skip offset c cs ts _ _ ih =>
    -- A character that was dropped makes the gap before the next token longer.
    have hmove : gap ++ c :: cs = (gap ++ [c]) ++ cs := by simp
    rw [hmove] at hsource ⊢
    exact ih before (gap ++ [c]) hsource (by simp [← hoffset, Nat.add_assoc])
  | @lexeme offset l rest ts _ _ _ ih =>
    -- The gap, the lexeme and the rest are three pieces of the source, one after the other.
    have hgap := text?_of_append hsource
    have hlexeme : source.toList = (before ++ gap) ++ (l.text ++ rest) := by simp [hsource]
    have htext := text?_tokenAt hlexeme
    have hrest := ih (before ++ gap ++ l.text) [] (by simp [hsource])
      (by simp [← hoffset, Nat.add_assoc])
    rw [byteLength_append, hoffset] at htext
    rw [byteLength_append, byteLength_append, hoffset, List.nil_append] at hrest
    rw [rebuild, start_tokenAt, stop_tokenAt, ← hoffset, hgap, hoffset, htext, hrest]
    simp [String.ofList_append, String.append_assoc]

end Scanned

/-! ## The tokens of a source -/

/-- The tokens that `tokenize` finds cover their source without loss, and the last one stands at its
end. -/
theorem tokenize_tiling (source : String) (h : source.utf8ByteSize ≤ offsetLimit)
    (ts : Array Token) (hts : tokenize source = .ok ts) :
    ∃ body last, ts.toList = body ++ [last] ∧ Tiling source body last := by
  obtain ⟨body, hbody, rfl⟩ := (tokenize_eq_ok_iff h).1 hts
  -- Every token but the last is a lexeme in its place.
  have hplace : ∀ t ∈ body, ∃ before l rest, source.toList = before ++ (l.text ++ rest) ∧
      t = tokenAt (byteLength before) l ∧ l.WellFormed := fun t ht => by
    obtain ⟨before, l, rest, hcs, rfl, hl, _⟩ := hbody.exists_lexeme ht
    exact ⟨before, l, rest, hcs, by rw [Nat.zero_add], hl⟩
  refine ⟨body, .eof source.utf8ByteSize, by simp, ?_⟩
  exact
    { body_kind := fun t ht => by
        obtain ⟨before, l, rest, _, rfl, hl⟩ := hplace t ht
        exact hl.kind_ne_eof
      last_kind := rfl
      last_value := rfl
      last_span := rfl
      start_lt_stop := fun t ht => by
        obtain ⟨before, l, rest, _, rfl, hl⟩ := hplace t ht
        exact start_lt_stop_tokenAt hl _
      boundary := fun t ht => by
        obtain ⟨before, l, rest, hsource, rfl, _⟩ := hplace t ht
        exact boundary_tokenAt hsource
      ordered := hbody.ordered
      skipped := fun before c after hsource hfree =>
        hbody.skipped hsource (by simpa only [Nat.zero_add] using hfree)
      rebuilt := by
        have hall := hbody.rebuild_eq [] [] rfl rfl
        rwa [byteLength_nil, List.nil_append, String.ofList_toList] at hall
      hasText := fun t ht => by
        obtain ⟨before, l, rest, hsource, rfl, hl⟩ := hplace t ht
        exact hasText_tokenAt hl hsource }

/-- A string with a character of two bytes, of which the value leaves out the quotes. -/
theorem tokenize_tiling_string :
    "x ='é'".utf8ByteSize ≤ offsetLimit ∧
    tokenize "x ='é'" = .ok #[⟨.identifier, "x", ⟨0, 1⟩⟩, ⟨.equals, "=", ⟨2, 3⟩⟩,
      ⟨.string, "é", ⟨3, 7⟩⟩, ⟨.eof, "EndOfFile", ⟨7, 7⟩⟩] ∧
    ∃ body last, [⟨.identifier, "x", ⟨0, 1⟩⟩, ⟨.equals, "=", ⟨2, 3⟩⟩, ⟨.string, "é", ⟨3, 7⟩⟩,
      ⟨.eof, "EndOfFile", ⟨7, 7⟩⟩] = body ++ [last] ∧ Tiling "x ='é'" body last := by
  have hsize : "x ='é'".utf8ByteSize ≤ offsetLimit := by decide
  have htokens : tokenize "x ='é'" = .ok #[⟨.identifier, "x", ⟨0, 1⟩⟩, ⟨.equals, "=", ⟨2, 3⟩⟩,
      ⟨.string, "é", ⟨3, 7⟩⟩, ⟨.eof, "EndOfFile", ⟨7, 7⟩⟩] := by cbv
  exact ⟨hsize, htokens, tokenize_tiling _ hsize _ htokens⟩

end ScriptCore.Lexer
