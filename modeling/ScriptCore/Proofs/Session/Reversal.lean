import ScriptCore.Proofs.Session.Answer
import ScriptCore.Proofs.Text.Reversal

/-!
# Searching and trimming backwards in a session

`strStartsWith` and `strEndsWith` look at the two ends of a text, and `strTrimStart` and `strTrimEnd`
cut there.  `strReverse` turns the one into the other, character by character, however many bytes the
characters have.

* `Text.Mirroring`: the law that ties searching, trimming and reversing together;
* `Session.mirror_of_global`: the functions of a global scope obey it.
-/

namespace ScriptCore

namespace Text

variable {text white rest white' rest' : String}

/-- All characters of a text are white space. -/
def Blank (text : String) : Prop := ∀ c ∈ text.toList, WhiteSpace c

/-- A text begins with white space. -/
def StartsBlank (text : String) : Prop := ∃ c, text.toList.head? = some c ∧ WhiteSpace c

/-- A text ends with white space. -/
def EndsBlank (text : String) : Prop := ∃ c, text.toList.getLast? = some c ∧ WhiteSpace c

/-- `Blank` texts are made of white space. -/
theorem blank_ofList {cs : List Char} (h : ∀ c ∈ cs, WhiteSpace c) : Blank (.ofList cs) := by
  intro c hc
  rw [String.toList_ofList] at hc
  exact h c hc

/-- White space in front can be cut off in one way if there is to be none left. -/
theorem Blank.append_cancel (hwhite : Blank white) (hwhite' : Blank white')
    (hrest : ¬StartsBlank rest) (hrest' : ¬StartsBlank rest')
    (h : white ++ rest = white' ++ rest') : rest = rest' := by
  rw [← String.toList_inj, String.toList_append, String.toList_append,
    List.append_eq_append_iff] at h
  -- What one cut has more of is white space, so nothing can begin with it.
  rcases h with ⟨more, hw, hr⟩ | ⟨more, hw, hr⟩
  · cases more with
    | nil => exact String.toList_inj.1 hr
    | cons c more => exact absurd ⟨c, by simp [hr], hwhite' c (by simp [hw])⟩ hrest
  · cases more with
    | nil => exact (String.toList_inj.1 hr).symm
    | cons c more => exact absurd ⟨c, by simp [hr], hwhite c (by simp [hw])⟩ hrest'

/-! ## The law -/

/-- What is done at one end of a text is done at the other end of the text backwards, and trimming
leaves out the white space at the ends and nothing else. -/
structure Mirroring (starts ends occurs : String → String → Bool)
    (reverse trim trimStart trimEnd : String → String) : Prop where
  toList_reverse : ∀ s, (reverse s).toList = s.toList.reverse
  starts_iff : ∀ s t, starts s t = true ↔ ∃ rest, s = t ++ rest
  starts_reverse : ∀ s t, starts s t = ends (reverse s) (reverse t)
  occurs_reverse : ∀ s t, occurs s t = occurs (reverse s) (reverse t)
  /-- A text occurs where what is left of the other text starts with it. -/
  occurs_iff : ∀ s t, occurs s t = true ↔ ∃ before after, s = before ++ after ∧ starts after t = true
  trimEnd_eq : ∀ s, trimEnd s = reverse (trimStart (reverse s))
  /-- The ends can be trimmed in any order. -/
  trim_eq_trimStart : ∀ s, trim s = trimStart (trimEnd s)
  trim_eq_trimEnd : ∀ s, trim s = trimEnd (trimStart s)
  eq_append_trimStart : ∀ s, ∃ white, Blank white ∧ s = white ++ trimStart s
  not_startsBlank_trimStart : ∀ s, ¬StartsBlank (trimStart s)
  eq_append_trim : ∀ s, ∃ first last, Blank first ∧ Blank last ∧ s = first ++ trim s ++ last
  not_startsBlank_trim : ∀ s, ¬StartsBlank (trim s)
  not_endsBlank_trim : ∀ s, ¬EndsBlank (trim s)
  trim_trim : ∀ s, trim (trim s) = trim s
  trimStart_trimStart : ∀ s, trimStart (trimStart s) = trimStart s
  trimEnd_trimEnd : ∀ s, trimEnd (trimEnd s) = trimEnd s

/-- The law says what is left: all from the first character on that is not white space. -/
theorem Mirroring.trimStart_append {starts ends occurs : String → String → Bool}
    {reverse trim trimStart trimEnd : String → String}
    (h : Mirroring starts ends occurs reverse trim trimStart trimEnd) (hwhite : Blank white)
    (hrest : ¬StartsBlank rest) : trimStart (white ++ rest) = rest := by
  obtain ⟨white', hwhite', heq⟩ := h.eq_append_trimStart (white ++ rest)
  exact (hwhite.append_cancel hwhite' hrest (h.not_startsBlank_trimStart _) heq).symm

/-- Searching and trimming characters obeys the law. -/
theorem mirroring : Mirroring (fun s t => startsWith s.toList t.toList)
    (fun s t => endsWith s.toList t.toList) (fun s t => includes s.toList t.toList) reversed
    (fun s => .ofList (trim s.toList)) (fun s => .ofList (trimStart s.toList))
    (fun s => .ofList (trimEnd s.toList)) where
  toList_reverse := toList_reversed
  -- Texts and their characters are cut in the same places.
  starts_iff s t := by
    rw [startsWith_iff]
    constructor
    · rintro ⟨rest, heq⟩
      exact ⟨.ofList rest, by rw [← String.toList_inj]; simp [heq]⟩
    · rintro ⟨rest, heq⟩
      exact ⟨rest.toList, by simp [heq]⟩
  starts_reverse s t := by
    simp only [toList_reversed, endsWith_reverse]
  occurs_reverse s t := by
    simp only [toList_reversed, includes_reverse]
  occurs_iff s t := by
    rw [includes_iff_startsWith]
    constructor
    · rintro ⟨before, after, heq, hstarts⟩
      refine ⟨.ofList before, .ofList after, ?_, by simpa using hstarts⟩
      rw [← String.toList_inj]
      simp [heq]
    · rintro ⟨before, after, heq, hstarts⟩
      exact ⟨before.toList, after.toList, by simp [heq], hstarts⟩
  trimEnd_eq s := by
    rw [trimEnd_eq_reverse, ← String.toList_inj]
    simp
  trim_eq_trimStart s := by
    rw [String.toList_ofList, trim_eq]
  trim_eq_trimEnd s := by
    rw [String.toList_ofList, trim]
  eq_append_trimStart s := by
    obtain ⟨white, heq, hwhite⟩ := eq_append_trimStart s.toList
    refine ⟨.ofList white, blank_ofList hwhite, ?_⟩
    rw [← String.ofList_append, ← heq, String.ofList_toList]
  not_startsBlank_trimStart s := by
    rintro ⟨c, hc, hwhite⟩
    rw [String.toList_ofList] at hc
    exact not_whiteSpace_of_head?_trimStart hc hwhite
  eq_append_trim s := by
    obtain ⟨first, last, heq, hfirst, hlast⟩ := eq_append_trim_append s.toList
    refine ⟨.ofList first, .ofList last, blank_ofList hfirst, blank_ofList hlast, ?_⟩
    rw [← String.ofList_append, ← String.ofList_append, ← heq, String.ofList_toList]
  not_startsBlank_trim s := by
    rintro ⟨c, hc, hwhite⟩
    rw [String.toList_ofList, trim_eq] at hc
    exact not_whiteSpace_of_head?_trimStart hc hwhite
  not_endsBlank_trim s := by
    rintro ⟨c, hc, hwhite⟩
    rw [String.toList_ofList, trim] at hc
    exact not_whiteSpace_of_getLast?_trimEnd hc hwhite
  trim_trim s := by rw [String.toList_ofList, trim_trim]
  trimStart_trimStart s := by rw [String.toList_ofList, trimStart_trimStart]
  trimEnd_trimEnd s := by rw [String.toList_ofList, trimEnd_trimEnd]

end Text

namespace Session

open Text

variable {s : Session} {global : ScopeId}

/-- In a global scope searching and trimming are the same backwards at the other end. -/
theorem mirror_of_global (h : s.IsGlobal global) :
    ∃ starts ends occurs reverse trim trimStart trimEnd,
      Mirroring starts ends occurs reverse trim trimStart trimEnd ∧
      (∀ text t, s.Answers global "strStartsWith" [.string text, .string t]
        (.ok (.boolean (starts text t)))) ∧
      (∀ text t, s.Answers global "strEndsWith" [.string text, .string t]
        (.ok (.boolean (ends text t)))) ∧
      (∀ text t, s.Answers global "strIncludes" [.string text, .string t]
        (.ok (.boolean (occurs text t)))) ∧
      (∀ text, s.Answers global "strReverse" [.string text] (.ok (.string (reverse text)))) ∧
      (∀ text, s.Answers global "strTrim" [.string text] (.ok (.string (trim text)))) ∧
      (∀ text, s.Answers global "strTrimStart" [.string text] (.ok (.string (trimStart text)))) ∧
      ∀ text, s.Answers global "strTrimEnd" [.string text] (.ok (.string (trimEnd text))) :=
  ⟨_, _, _, _, _, _, _, mirroring, h.answers_textTest rfl, h.answers_textTest rfl,
    h.answers_textTest rfl, h.answers_textMap rfl, h.answers_textMap rfl, h.answers_textMap rfl,
    h.answers_textMap rfl⟩

/-- A text is found where it overlaps with itself, and an ideographic space is trimmed. -/
theorem mirror_of_global_overlap :
    let s := (start 0 0).run [.newGlobal .silent]
    s.IsGlobal ⟨0⟩ ∧
    s.Answers ⟨0⟩ "strIncludes" [.string "aaab", .string "aab"] (.ok (.boolean true)) ∧
    s.Answers ⟨0⟩ "strTrimStart" [.string "\u3000 é "] (.ok (.string "é ")) := by
  intro s
  have hglobal : s.IsGlobal ⟨0⟩ := isGlobal_run (sound_start 0 0) .silent (by decide)
  -- The law decides the answers: an occurrence is where the rest starts with the text.
  obtain ⟨starts, ends, occurs, reverse, trim, trimStart, trimEnd, hlaw, -, -, hoccurs, -, -,
    htrim, -⟩ := mirror_of_global hglobal
  have hstarts : starts "aab" "aab" = true := (hlaw.starts_iff _ _).2 ⟨"", by decide⟩
  have hfound : occurs "aaab" "aab" = true :=
    (hlaw.occurs_iff _ _).2 ⟨"a", "aab", by decide, hstarts⟩
  have hwhite : Blank "\u3000 " := by
    intro c hc
    have hlist : "\u3000 ".toList = ['\u3000', ' '] := by decide
    rw [hlist] at hc
    obtain rfl | rfl : c = '\u3000' ∨ c = ' ' := by simpa using hc
    all_goals decide
  -- After the white space there is a letter, so no more is trimmed.
  have hrest : ¬StartsBlank "é " := by
    rintro ⟨c, hc, hblank⟩
    have hhead : "é ".toList.head? = some 'é' := by decide
    cases hhead.symm.trans hc
    exact absurd hblank (by decide)
  have htrimmed : trimStart "\u3000 é " = "é " := hlaw.trimStart_append hwhite hrest
  exact ⟨hglobal, hfound ▸ hoccurs "aaab" "aab", htrimmed ▸ htrim "\u3000 é "⟩

end Session

end ScriptCore
