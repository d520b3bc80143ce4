import ScriptCore.Text.WhiteSpace

/-!
# Finding, replacing and trimming

Searching goes from left to right and never looks at replaced text again.  The empty text occurs
everywhere, so replacing it puts the replacement before every character and at the end.

`length_lt_of_cutAtFirst?` is what makes `replaceAll` end: what is left after an occurrence of a text
that is not empty is shorter than before.
-/

namespace ScriptCore.Text

/-- Whether `s` begins with `t`. -/
def startsWith (s t : List Char) : Bool := t.isPrefixOf s

/-- Whether `s` ends with `t`. -/
def endsWith (s t : List Char) : Bool :=
  t.length ≤ s.length && s.drop (s.length - t.length) == t

/-- Whether `t` occurs in `s`. -/
def includes (s t : List Char) : Bool :=
  startsWith s t ||
    match s with
    | [] => false
    | _ :: rest => includes rest t

/-- Cuts `s` around the leftmost occurrence of `t`: the text before it and the text after it. -/
def cutAtFirst? (t : List Char) (s : List Char) : Option (List Char × List Char) :=
  if startsWith s t then some ([], s.drop t.length)
  else
    match s with
    | [] => none
    | c :: rest => (cutAtFirst? t rest).map fun (before, after) => (c :: before, after)

/-- `startsWith` finds exactly the texts that something can be put behind to give `s`. -/
theorem startsWith_iff {s t : List Char} : startsWith s t = true ↔ ∃ r, s = t ++ r := by
  simp only [startsWith, List.isPrefixOf_iff_prefix]
  exact ⟨fun ⟨r, h⟩ => ⟨r, h.symm⟩, fun ⟨r, h⟩ => ⟨r, h.symm⟩⟩

/-- What `startsWith` finds is cut off by `drop`. -/
theorem eq_append_drop_of_startsWith {s t : List Char} (h : startsWith s t = true) :
    s = t ++ s.drop t.length := by
  obtain ⟨r, rfl⟩ := startsWith_iff.1 h
  simp

/-- The two parts that `cutAtFirst?` gives, with the occurrence between them, are the text. -/
theorem eq_of_cutAtFirst? {t s a b : List Char} (h : cutAtFirst? t s = some (a, b)) :
    s = a ++ t ++ b := by
  induction s generalizing a with
  | nil =>
    unfold cutAtFirst? at h
    split at h
    · next hs =>
      obtain ⟨rfl, rfl⟩ := Prod.mk.inj (Option.some.inj h)
      exact eq_append_drop_of_startsWith hs
    · simp at h
  | cons c s ih =>
    unfold cutAtFirst? at h
    split at h
    · next hs =>
      obtain ⟨rfl, rfl⟩ := Prod.mk.inj (Option.some.inj h)
      exact eq_append_drop_of_startsWith hs
    · obtain ⟨⟨a', b'⟩, hab, heq⟩ := Option.map_eq_some_iff.1 h
      obtain ⟨rfl, rfl⟩ := Prod.mk.inj heq
      rw [ih hab]
      rfl

/-- What `cutAtFirst?` leaves after an occurrence of a text that is not empty is shorter. -/
theorem length_lt_of_cutAtFirst? {t s a b : List Char} (ht : t ≠ [])
    (h : cutAtFirst? t s = some (a, b)) : b.length < s.length := by
  have := List.length_pos_iff.2 ht
  rw [eq_of_cutAtFirst? h]
  simp only [List.length_append]
  omega

/-- Replaces the leftmost occurrence of `t` by `u`. -/
def replaceFirst (s t u : List Char) : List Char :=
  match cutAtFirst? t s with
  | some (before, after) => before ++ u ++ after
  | none => s

/-- Replaces every occurrence of `t`, which is not empty, by `u`. -/
def replaceEach (t u : List Char) (ht : t ≠ []) (s : List Char) : List Char :=
  match h : cutAtFirst? t s with
  | some (before, after) =>
    have : after.length < s.length := length_lt_of_cutAtFirst? ht h
    before ++ u ++ replaceEach t u ht after
  | none => s
termination_by s.length

/-- Replaces every occurrence of `t` by `u`, from left to right. -/
def replaceAll (s t u : List Char) : List Char :=
  if ht : t = [] then s.flatMap (fun c => u ++ [c]) ++ u else replaceEach t u ht s

/-- The text without the white space in front. -/
def trimStart (s : List Char) : List Char := s.dropWhile isWhiteSpace

/-- The text without the white space at its end. -/
def trimEnd (s : List Char) : List Char :=
  s.foldr (fun c rest => if rest.isEmpty && isWhiteSpace c then [] else c :: rest) []

/-- The text without the white space at both ends. -/
def trim (s : List Char) : List Char := trimEnd (trimStart s)

end ScriptCore.Text
