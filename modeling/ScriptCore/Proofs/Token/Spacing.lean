import ScriptCore.Proofs.Token.Identifier
import ScriptCore.Proofs.Token.Tiling

/-!
# White space between tokens

What stands between the tokens of a source makes no difference to them.  Their texts can be written
anew with other gaps between them, also where there was no gap, and are read as the same tokens in
other places.

* `scanned_spread`: texts of tokens, each followed by a gap, are read as these tokens;
* `texts?_placeFrom`: each token stands where its text was written;
* `tokenize_reformat`: a source can be formatted in any way, and nothing is left of the way in which
  it was formatted before.
-/

namespace ScriptCore

/-- A text that is dropped between tokens. -/
structure Gap where
  text : String
  skippable : text.toList.all isSkippable = true := by decide

/-- The gaps to write: one before the first token, and one after each token. -/
structure Spacing where
  first : Gap
  after : List Gap

/-- The tokens of a source without the one that marks its end. -/
def contents (tokens : Array Token) : List Token := tokens.toList.filter (!·.isEof)

/-- The texts of tokens as they stand in a source. -/
def texts? (source : String) (ts : List Token) : Option (List String) :=
  ts.mapM (·.span.text? source)

namespace Spacing

/-- There is a gap after each of so many tokens, and it is not empty between two of them. -/
structure Fits (spacing : Spacing) (count : Nat) : Prop where
  length_eq : spacing.after.length = count
  text_ne : ∀ gap ∈ spacing.after.dropLast, gap.text ≠ ""

/-- Texts with a gap after each of them. -/
def spread : List String → List Gap → String
  | text :: texts, gap :: gaps => text ++ gap.text ++ spread texts gaps
  | _, _ => ""

/-- Tokens in the places of their texts, if these are written from an offset on with a gap after each
of them. -/
def placeFrom (offset : Nat) : List Token → List Gap → List Token
  | t :: ts, gap :: gaps =>
    let stop := offset + (t.span.stop - t.span.start)
    { t with span := ⟨offset, stop⟩ } :: placeFrom (stop + gap.text.utf8ByteSize) ts gaps
  | _, _ => []

/-- Texts with all gaps. -/
def write (spacing : Spacing) (texts : List String) : String :=
  spacing.first.text ++ spread texts spacing.after

/-- Tokens in the places of their texts, if these are written with all gaps. -/
def place (spacing : Spacing) (ts : List Token) : List Token :=
  placeFrom spacing.first.text.utf8ByteSize ts spacing.after

/-- The source with other gaps. -/
def reformat? (spacing : Spacing) (source : String) : Option String := do
  let tokens ← (tokenize source).toOption
  let texts ← texts? source (contents tokens)
  return spacing.write texts

end Spacing

open Text (byteLength byteLength_append byteLength_cons)

namespace Lexer

/-- The token is that of a lexeme which stands in its place. -/
def Stands (source : String) (t : Token) : Prop :=
  ∃ l offset, l.WellFormed ∧ t = tokenAt offset l ∧
    t.span.text? source = some (String.ofList l.text)

/-- Each token that is `Scanned` from a source `Stands` in it. -/
theorem Scanned.stands {source : String} {ts : List Token} (h : Scanned 0 source.toList ts)
    {t : Token} (ht : t ∈ ts) : Stands source t := by
  obtain ⟨before, l, rest, hsource, rfl, hl, -⟩ := h.exists_lexeme ht
  rw [Nat.zero_add]
  exact ⟨l, byteLength before, hl, rfl, text?_tokenAt hsource⟩

/-- Skippable characters before a text move what is `Scanned` from it. -/
theorem Scanned.skipAll {gap : List Char} (hskip : ∀ c ∈ gap, isSkippable c) {offset : Nat}
    {cs : List Char} {ts : List Token} (h : Scanned (offset + byteLength gap) cs ts) :
    Scanned offset (gap ++ cs) ts := by
  induction gap generalizing offset with
  | nil => exact h
  | cons c gap ih =>
    obtain ⟨hc, hgap⟩ := List.forall_mem_cons.1 hskip
    rw [byteLength_cons, ← Nat.add_assoc] at h
    exact .skip hc (ih hgap h)

/-- A `Gap` before a text moves what is `Scanned` from it. -/
theorem Scanned.gap {offset : Nat} {cs : List Char} {ts : List Token} (gap : Gap)
    (h : Scanned (offset + gap.text.utf8ByteSize) cs ts) :
    Scanned offset (gap.text.toList ++ cs) ts := by
  rw [Text.utf8ByteSize_eq] at h
  exact h.skipAll (List.all_eq_true.1 gap.skippable)

/-- `texts?` reads the texts one by one. -/
theorem texts?_cons_eq_some_iff {source : String} {t : Token} {ts : List Token}
    {texts : List String} : texts? source (t :: ts) = some texts ↔
      ∃ text others, t.span.text? source = some text ∧ texts? source ts = some others ∧
        text :: others = texts := by
  simp [texts?, List.mapM_cons, Option.bind_eq_some_iff]

/-! ## Texts with gaps between them -/

/-- A `WellFormed` lexeme ends where a `Gap` begins, or at the end. -/
private theorem forall_head?_gap {l : Lexeme} (hl : l.WellFormed) {gap : Gap} {cs : List Char}
    (h : gap.text = "" → cs = []) : ∀ d ∈ (gap.text.toList ++ cs).head?, ¬ l.JoinedBy d := by
  intro d hd
  -- An empty gap is the last one; any other begins with a character that joins nothing.
  cases hgap : gap.text.toList with
  | nil =>
    have hempty : gap.text = "" := String.toList_eq_nil_iff.1 hgap
    rw [hgap, h hempty] at hd
    cases hd
  | cons c chars =>
    rw [hgap] at hd
    obtain rfl : c = d := Option.some.inj hd
    exact not_joinedBy_skippable hl (List.all_eq_true.1 gap.skippable c (by simp [hgap]))

/-- `Spacing.spread` writes texts from which the same tokens are `Scanned`, if there is a gap
between any two of them. -/
theorem scanned_spread {source : String} {ts : List Token} (hts : ∀ t ∈ ts, Stands source t)
    {gaps : List Gap} (hlength : gaps.length = ts.length)
    (hinner : ∀ gap ∈ gaps.dropLast, gap.text ≠ "") (offset : Nat) :
    ∃ texts, texts? source ts = some texts ∧
      Scanned offset (Spacing.spread texts gaps).toList (Spacing.placeFrom offset ts gaps) := by
  induction ts generalizing gaps offset with
  | nil =>
    obtain rfl := List.length_eq_zero_iff.1 hlength
    exact ⟨[], rfl, .nil⟩
  | cons t ts ih =>
    obtain ⟨gap, gaps, rfl⟩ := List.exists_cons_of_length_eq_add_one hlength
    obtain ⟨ht, hrest⟩ := List.forall_mem_cons.1 hts
    obtain ⟨l, start, hl, rfl, htext⟩ := ht
    have hlength' : gaps.length = ts.length := Nat.succ_inj.1 hlength
    -- What is between the other tokens is not empty either.
    have hinner' : ∀ g ∈ gaps.dropLast, g.text ≠ "" := fun g hg => by
      refine hinner g ?_
      cases gaps with
      | nil => cases hg
      | cons next gaps => exact List.mem_cons_of_mem gap hg
    obtain ⟨texts, htexts, hscanned⟩ := ih hrest hlength' hinner'
      (offset + byteLength l.text + gap.text.utf8ByteSize)
    refine ⟨_, texts?_cons_eq_some_iff.2 ⟨_, texts, htext, htexts, rfl⟩, ?_⟩
    have hhead : ∀ d ∈ (gap.text.toList ++ (Spacing.spread texts gaps).toList).head?,
        ¬ l.JoinedBy d := by
      refine forall_head?_gap hl fun hempty => ?_
      -- Only the last gap may be empty.
      cases gaps with
      | nil => cases texts <;> rfl
      | cons next gaps => exact absurd hempty (hinner gap (List.mem_cons_self ..))
    -- The first token is placed where its text is written.
    have hplace : Spacing.placeFrom offset (tokenAt start l :: ts) (gap :: gaps) =
        tokenAt offset l ::
          Spacing.placeFrom (offset + byteLength l.text + gap.text.utf8ByteSize) ts gaps := by
      rw [Spacing.placeFrom, stop_tokenAt, start_tokenAt, Nat.add_sub_cancel_left]
      rfl
    rw [hplace, Spacing.spread, String.toList_append, String.toList_append, String.toList_ofList,
      List.append_assoc]
    exact .lexeme hl hhead (hscanned.gap gap)

/-- `Spacing.placeFrom` changes neither kinds nor values. -/
theorem map_placeFrom {ts : List Token} {gaps : List Gap} (hlength : gaps.length = ts.length)
    (offset : Nat) : (Spacing.placeFrom offset ts gaps).map (fun t => (t.kind, t.value)) =
      ts.map fun t => (t.kind, t.value) := by
  induction ts generalizing gaps offset with
  | nil => simp [Spacing.placeFrom]
  | cons t ts ih =>
    obtain ⟨gap, gaps, rfl⟩ := List.exists_cons_of_length_eq_add_one hlength
    rw [Spacing.placeFrom, List.map_cons, List.map_cons, ih (Nat.succ_inj.1 hlength)]

/-- The text of a span has as many bytes as the span. -/
theorem utf8ByteSize_of_text? {span : Span} {source text : String}
    (h : span.text? source = some text) : text.utf8ByteSize = span.stop - span.start := by
  obtain ⟨piece, hpiece, rfl⟩ := Option.map_eq_some_iff.1 h
  rw [Text.utf8ByteSize_ofList, Text.byteLength_of_slice? hpiece]

/-- Tokens placed by `Spacing.placeFrom` have the same texts in the text that was written. -/
theorem texts?_placeFrom {source whole : String} {ts : List Token} {texts : List String}
    (htexts : texts? source ts = some texts) {gaps : List Gap} (hlength : gaps.length = ts.length)
    {before after : List Char}
    (hwhole : whole.toList = before ++ ((Spacing.spread texts gaps).toList ++ after)) :
    texts? whole (Spacing.placeFrom (byteLength before) ts gaps) = some texts := by
  induction ts generalizing texts gaps before with
  | nil =>
    simp only [texts?, Spacing.placeFrom] at htexts ⊢
    exact htexts
  | cons t ts ih =>
    obtain ⟨gap, gaps, rfl⟩ := List.exists_cons_of_length_eq_add_one hlength
    obtain ⟨text, texts, htext, hrest, rfl⟩ := texts?_cons_eq_some_iff.1 htexts
    rw [Spacing.spread, String.toList_append, String.toList_append] at hwhole
    have hfirst : whole.toList = before ++ (text.toList ++
        (gap.text.toList ++ (Spacing.spread texts gaps).toList ++ after)) := by
      simp [hwhole]
    -- The other texts are written behind the first one and its gap.
    have hbehind : whole.toList = (before ++ text.toList ++ gap.text.toList) ++
        ((Spacing.spread texts gaps).toList ++ after) := by
      simp [hwhole]
    have hothers := ih hrest (Nat.succ_inj.1 hlength) hbehind
    have hread := text?_of_append hfirst
    -- The places are counted with the length of the span, which is that of the text.
    have hsize := utf8ByteSize_of_text? htext
    rw [byteLength_append, byteLength_append, ← Text.utf8ByteSize_eq, ← Text.utf8ByteSize_eq,
      hsize] at hothers
    rw [← Text.utf8ByteSize_eq, hsize, String.ofList_toList] at hread
    exact texts?_cons_eq_some_iff.2 ⟨text, texts, hread, hothers, rfl⟩

end Lexer

open Lexer

/-! ## Formatting -/

/-- `Spacing.reformat?` writes the texts of the tokens. -/
theorem Spacing.reformat?_eq (spacing : Spacing) {source : String} {tokens : Array Token}
    (h : tokenize source = .ok tokens) {texts : List String}
    (htexts : texts? source (contents tokens) = some texts) :
    spacing.reformat? source = some (spacing.write texts) := by
  rw [reformat?, h]
  simp [Except.toOption, htexts]

/-- A source that can be read can be formatted with any gaps that `Fits` allows for its tokens. If
it does not get too long, `tokenize` reads it as the same tokens in the places of their texts, and
formatting it once more, in whatever way, gives what formatting the source itself gives. -/
theorem tokenize_reformat {source : String} {tokens : Array Token}
    (h : tokenize source = .ok tokens) (spacing : Spacing)
    (hfits : spacing.Fits (contents tokens).length) :
    ∃ text, spacing.reformat? source = some text ∧
      (text.utf8ByteSize ≤ offsetLimit →
        tokenize text =
          .ok (spacing.place (contents tokens) ++ [Token.eof text.utf8ByteSize]).toArray ∧
        (spacing.place (contents tokens)).map (fun t => (t.kind, t.value)) =
          (contents tokens).map (fun t => (t.kind, t.value)) ∧
        texts? text (spacing.place (contents tokens)) = texts? source (contents tokens) ∧
        ∀ other : Spacing, other.reformat? text = other.reformat? source) := by
  obtain ⟨-, body, hbody, rfl⟩ := scanned_of_tokenize h
  have hcontents : contents (body ++ [Token.eof source.utf8ByteSize]).toArray = body :=
    hbody.filter_isEof
  -- Any other spacing writes the same texts.
  have hformat (other : Spacing) {texts : List String} (htexts : texts? source body = some texts) :
      other.reformat? source = some (other.write texts) := by
    refine other.reformat?_eq h ?_
    rwa [hcontents]
  rw [hcontents] at hfits ⊢
  obtain ⟨texts, htexts, hscanned⟩ := scanned_spread (fun t ht => hbody.stands ht)
    hfits.length_eq hfits.text_ne spacing.first.text.utf8ByteSize
  refine ⟨spacing.write texts, hformat spacing htexts, fun hsize => ?_⟩
  -- The tokens in their new places are those of the text that is written.
  have hplaced : Scanned 0 (spacing.write texts).toList (spacing.place body) := by
    rw [Spacing.write, String.toList_append]
    refine Scanned.gap spacing.first ?_
    rwa [Nat.zero_add]
  have htokens := (tokenize_eq_ok_iff hsize).2 ⟨_, hplaced, rfl⟩
  have hsame : texts? (spacing.write texts) (spacing.place body) = some texts := by
    have hwhole : (spacing.write texts).toList = spacing.first.text.toList ++
        ((Spacing.spread texts spacing.after).toList ++ []) := by
      rw [Spacing.write, String.toList_append, List.append_nil]
    rw [Spacing.place, Text.utf8ByteSize_eq]
    exact texts?_placeFrom htexts hfits.length_eq hwhole
  refine ⟨htokens, map_placeFrom hfits.length_eq _, hsame.trans htexts.symm, fun other => ?_⟩
  -- So formatting that text writes the same texts as well.
  have hagain : other.reformat? (spacing.write texts) = some (other.write texts) := by
    refine other.reformat?_eq htokens ?_
    rwa [contents, hplaced.filter_isEof]
  rw [hagain, hformat other htexts]

/-- Tokens that stand next to each other are moved apart. -/
theorem tokenize_reformat_apart :
    let spacing : Spacing := ⟨{ text := " " }, [{ text := " \n" }, { text := "\t" }, { text := "" }]⟩
    let tokens : Array Token := #[⟨.identifier, "x", ⟨0, 1⟩⟩, ⟨.decrement, "--", ⟨1, 3⟩⟩,
      ⟨.string, "é", ⟨3, 7⟩⟩, .eof 7]
    tokenize "x--'é'" = .ok tokens ∧ spacing.Fits (contents tokens).length ∧
      spacing.reformat? "x--'é'" = some " x \n--\t'é'" ∧
      tokenize " x \n--\t'é'" = .ok #[⟨.identifier, "x", ⟨1, 2⟩⟩, ⟨.decrement, "--", ⟨4, 6⟩⟩,
        ⟨.string, "é", ⟨7, 11⟩⟩, .eof 11] := by
  intro spacing tokens
  have htokens : tokenize "x--'é'" = .ok tokens := by cbv
  have hfits : spacing.Fits (contents tokens).length := ⟨by decide, by decide⟩
  have hformat : spacing.reformat? "x--'é'" = some " x \n--\t'é'" := by cbv
  obtain ⟨text, htext, hread⟩ := tokenize_reformat htokens spacing hfits
  cases hformat.symm.trans htext
  exact ⟨htokens, hfits, hformat, (hread (by decide)).1⟩

end ScriptCore
