import ScriptCore.Proofs.Session.Answer
import ScriptCore.Proofs.Text.Replacement

/-!
# Replacing texts in a session

The three functions that look for a text in another one agree on where it is: `strIncludes` tells if
there is an occurrence, `strReplace` replaces the leftmost one, and `strReplaceAll` goes on after it.
The replacement is not searched, so the pieces in between are the same for all replacements.

* `Text.FirstOccurrence`: where the leftmost occurrence is;
* `Text.Substitution`: the law that ties the three functions together;
* `Session.replace_of_global`: the functions of a global scope obey it.
-/

namespace ScriptCore

namespace Text

variable {text pattern replacement before after : String}

/-- The leftmost occurrence of a pattern in a text: no occurrence has fewer characters before it. -/
structure FirstOccurrence (pattern text before after : String) : Prop where
  eq : text = before ++ pattern ++ after
  least : ∀ before' after', text = before' ++ pattern ++ after' → before.length ≤ before'.length

/-- `toList` cuts a text as the text is cut. -/
theorem toList_eq_append_iff : text.toList = before.toList ++ pattern.toList ++ after.toList ↔
    text = before ++ pattern ++ after := by
  rw [← String.toList_inj, String.toList_append, String.toList_append]

/-- A text is cut at the leftmost occurrence as its characters are. -/
theorem cutsAtFirst_toList_iff :
    CutsAtFirst pattern.toList text.toList before.toList after.toList ↔
      FirstOccurrence pattern text before after := by
  constructor
  · intro h
    -- No other occurrence is further left, in texts or in their characters.
    refine ⟨toList_eq_append_iff.1 h.eq, fun before' after' heq => ?_⟩
    simpa only [String.length_toList] using h.least _ _ (toList_eq_append_iff.2 heq)
  · intro h
    refine ⟨toList_eq_append_iff.2 h.eq, fun before' after' heq => ?_⟩
    have hstring : text = .ofList before' ++ pattern ++ .ofList after' :=
      toList_eq_append_iff.1 (by simpa using heq)
    simpa only [String.length_toList, String.length_ofList] using h.least _ _ hstring

/-- `toList` has a list inside if the text has the pattern inside. -/
theorem isInfix_toList_iff :
    pattern.toList <:+: text.toList ↔ ∃ before after, text = before ++ pattern ++ after := by
  constructor
  · rintro ⟨before, after, heq⟩
    exact ⟨.ofList before, .ofList after, toList_eq_append_iff.1 (by simpa using heq.symm)⟩
  · rintro ⟨before, after, heq⟩
    exact ⟨before.toList, after.toList, (toList_eq_append_iff.2 heq).symm⟩

/-! ## The characters of the results -/

/-- `replaceFirst` puts the replacement where the leftmost occurrence was. -/
theorem ofList_replaceFirst (h : FirstOccurrence pattern text before after) :
    String.ofList (replaceFirst text.toList pattern.toList replacement.toList) =
      before ++ replacement ++ after := by
  rw [replaceFirst_of_cutsAtFirst (cutsAtFirst_toList_iff.2 h)]
  simp only [String.ofList_append, String.ofList_toList]

/-- `replaceAll` replaces the leftmost occurrence and goes on after it. -/
theorem ofList_replaceAll (hpattern : pattern.toList ≠ [])
    (h : FirstOccurrence pattern text before after) :
    String.ofList (replaceAll text.toList pattern.toList replacement.toList) =
      before ++ replacement ++
        String.ofList (replaceAll after.toList pattern.toList replacement.toList) := by
  rw [replaceAll_of_cutsAtFirst hpattern (cutsAtFirst_toList_iff.2 h)]
  simp only [String.ofList_append, String.ofList_toList]

/-- The replacement comes before every character, and once more at the end. -/
theorem ofList_replaceAll_nil : String.ofList (replaceAll text.toList [] replacement.toList) =
    String.join (text.toList.map fun c => replacement ++ c.toString) ++ replacement := by
  rw [← String.toList_inj, replaceAll_nil]
  simp only [String.toList_ofList, String.toList_append, String.toList_join, List.flatMap_map,
    Char.toString_eq_singleton, String.toList_singleton]

/-- The pieces of a text are put together with the replacement. -/
theorem exists_string_pieces (hpattern : pattern.toList ≠ []) (text : String) :
    ∃ pieces : List String, pieces ≠ [] ∧ text = pattern.intercalate pieces ∧
      (∀ piece ∈ pieces, ¬pattern.toList <:+: piece.toList) ∧
      ∀ replacement : String,
        String.ofList (replaceAll text.toList pattern.toList replacement.toList) =
          replacement.intercalate pieces := by
  obtain ⟨pieces, hne, heq, hpieces, hreplaced⟩ := exists_pieces hpattern text.toList
  have hstrings : (pieces.map String.ofList).map String.toList = pieces := by
    simp [Function.comp_def]
  refine ⟨pieces.map String.ofList, by simpa using hne, ?_, ?_, fun replacement => ?_⟩
  · rw [← String.toList_inj, String.toList_intercalate, hstrings, ← heq]
  · simpa using hpieces
  · rw [← String.toList_inj, String.toList_intercalate, hstrings, String.toList_ofList, hreplaced]

/-! ## The law -/

/-- Three functions agree on the leftmost occurrences of a pattern in a text: the first one tells if
there are any, the second one replaces one and the third one replaces all. -/
structure Substitution (occurs : String → String → Bool)
    (first all : String → String → String → String) : Prop where
  occurs_iff : ∀ text pattern,
    occurs text pattern = true ↔ ∃ before after, text = before ++ pattern ++ after
  absent : ∀ text pattern replacement, pattern ≠ "" → occurs text pattern = false →
    first text pattern replacement = text ∧ all text pattern replacement = text
  exists_firstOccurrence : ∀ text pattern, occurs text pattern = true →
    ∃ before after, FirstOccurrence pattern text before after
  first_eq : ∀ text pattern replacement before after, FirstOccurrence pattern text before after →
    first text pattern replacement = before ++ replacement ++ after
  /-- What comes after the leftmost occurrence is shorter, and all is done again with it. -/
  all_eq : ∀ text pattern replacement before after, pattern ≠ "" →
    FirstOccurrence pattern text before after → after.length < text.length ∧
    all text pattern replacement = before ++ replacement ++ all after pattern replacement
  first_empty : ∀ text replacement, first text "" replacement = replacement ++ text
  all_empty : ∀ text replacement, all text "" replacement =
    String.join (text.toList.map fun c => replacement ++ c.toString) ++ replacement
  /-- The pieces between the occurrences are the same for all replacements. -/
  exists_pieces : ∀ text pattern, pattern ≠ "" → ∃ pieces : List String, pieces ≠ [] ∧
    text = pattern.intercalate pieces ∧ (∀ piece ∈ pieces, occurs piece pattern = false) ∧
    ∀ replacement, all text pattern replacement = replacement.intercalate pieces

/-- The text after an occurrence is shorter. -/
theorem FirstOccurrence.length_lt (h : FirstOccurrence pattern text before after)
    (hpattern : pattern ≠ "") : after.length < text.length := by
  have hpos : 0 < pattern.toList.length :=
    List.length_pos_iff.2 (mt String.toList_eq_nil_iff.1 hpattern)
  rw [String.length_toList] at hpos
  rw [h.eq, String.length_append, String.length_append]
  omega

/-- `FirstOccurrence` of the empty text: it is found at the beginning. -/
theorem firstOccurrence_empty (text : String) : FirstOccurrence "" text "" text :=
  cutsAtFirst_toList_iff.1 (cutsAtFirst_nil text.toList)

/-- Searching and replacing characters obeys the law. -/
theorem substitution : Substitution (fun text pattern => includes text.toList pattern.toList)
    (fun text pattern replacement =>
      String.ofList (replaceFirst text.toList pattern.toList replacement.toList))
    (fun text pattern replacement =>
      String.ofList (replaceAll text.toList pattern.toList replacement.toList)) := by
  have hne {pattern : String} (hpattern : pattern ≠ "") : pattern.toList ≠ [] :=
    mt String.toList_eq_nil_iff.1 hpattern
  have hincludes (text pattern : String) :
      includes text.toList pattern.toList = false ↔ ¬pattern.toList <:+: text.toList := by
    rw [← includes_iff, Bool.not_eq_true]
  exact {
    occurs_iff := fun text pattern => includes_iff.trans isInfix_toList_iff
    absent := fun text pattern replacement hpattern habsent => by
      have hinfix := (hincludes text pattern).1 habsent
      rw [replaceFirst_of_not_isInfix hinfix, replaceAll_of_not_isInfix (hne hpattern) hinfix]
      exact ⟨String.ofList_toList, String.ofList_toList⟩
    exists_firstOccurrence := fun text pattern hoccurs => by
      obtain ⟨before, after, hcut⟩ := exists_cutsAtFirst (includes_iff.1 hoccurs)
      exact ⟨.ofList before, .ofList after, cutsAtFirst_toList_iff.1 (by simpa using hcut)⟩
    first_eq := fun text pattern replacement before after => ofList_replaceFirst
    all_eq := fun text pattern replacement before after hpattern h =>
      ⟨h.length_lt hpattern, ofList_replaceAll (hne hpattern) h⟩
    first_empty := fun text replacement => by
      rw [ofList_replaceFirst (firstOccurrence_empty text), String.empty_append]
    all_empty := fun text replacement => ofList_replaceAll_nil
    exists_pieces := fun text pattern hpattern => by
      simp only [hincludes]
      exact exists_string_pieces (hne hpattern) text }

end Text

namespace Session

open Text

variable {s : Session} {global : ScopeId} {name : String}

/-- In a global scope `strReplace` and `strReplaceAll` replace the occurrences of a text that
`strIncludes` tells of, from left to right. -/
theorem replace_of_global (h : s.IsGlobal global) : ∃ occurs first all,
    Substitution occurs first all ∧
    (∀ text pattern, s.Answers global "strIncludes" [.string text, .string pattern]
      (.ok (.boolean (occurs text pattern)))) ∧
    (∀ text pattern replacement, s.Answers global "strReplace"
      [.string text, .string pattern, .string replacement]
      (.ok (.string (first text pattern replacement)))) ∧
    ∀ text pattern replacement, s.Answers global "strReplaceAll"
      [.string text, .string pattern, .string replacement]
      (.ok (.string (all text pattern replacement))) :=
  ⟨_, _, _, substitution, h.answers_textTest rfl, h.answers_textReplace rfl,
    h.answers_textReplace rfl⟩

/-- An occurrence that overlaps the one before it is passed over, and what is put in is not
searched. -/
theorem replace_of_global_overlap :
    let s := (start 0 0).run [.newGlobal .silent]
    s.IsGlobal ⟨0⟩ ∧ s.Answers ⟨0⟩ "strReplaceAll" [.string "aaa", .string "aa", .string "aab"]
      (.ok (.string "aaba")) := by
  intro s
  have hglobal : s.IsGlobal ⟨0⟩ := isGlobal_run (sound_start 0 0) .silent (by decide)
  obtain ⟨occurs, first, all, hlaw, -, -, hall⟩ := replace_of_global hglobal
  -- The leftmost occurrence is at the beginning, and what comes after it is too short for another
  -- one.
  have hbegin : FirstOccurrence "aa" "aaa" "" "a" := ⟨by decide, fun _ _ _ => Nat.zero_le _⟩
  have hrest : occurs "a" "aa" = false := by
    rw [← Bool.not_eq_true, hlaw.occurs_iff]
    rintro ⟨before, after, heq⟩
    have hlength := congrArg String.length heq
    rw [String.length_append, String.length_append] at hlength
    have htwo : "aa".length = 2 := by decide
    have hone : "a".length = 1 := by decide
    omega
  have hresult : all "aaa" "aa" "aab" = "aaba" := by
    rw [(hlaw.all_eq _ _ _ _ _ (by decide) hbegin).2, (hlaw.absent _ _ _ (by decide) hrest).2]
    decide
  exact ⟨hglobal, hresult ▸ hall "aaa" "aa" "aab"⟩

end Session

end ScriptCore
