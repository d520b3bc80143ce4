import ScriptCore.Proofs.Token.Cursor

/-!
# Seeking a byte

A byte below 128 is sought without decoding the text.  What is found is the character all the same:
each such byte in a text is a character of its own, so the place is the one where the loop over the
other characters stops.

* `Cursor.Steps`: the loop over the characters of a class;
* `Cursor.Stands.steps_skipWhile`: it goes through, to the end of the run;
* `Cursor.seeks_of_course`: the search and the loop agree at every cursor that a run reaches.
-/

namespace ScriptCore

namespace Cursor

variable {c d e : Cursor} {before after : List Char} {inClass : Char → Bool} {byte : UInt8}

/-! ## The loop -/

/-- The loop over the characters of a class comes from one cursor to another one: it passes the
character at the cursor if that is in the class, and otherwise it stops. -/
inductive Steps (inClass : Char → Bool) : Cursor → Cursor → Prop where
  | atEnd {c : Cursor} (hcurrent : c.current? = none) : Steps inClass c c
  | outside {c : Cursor} {x : Char} (hcurrent : c.current? = some x) (hx : ¬inClass x) :
    Steps inClass c c
  | pass {c d : Cursor} {x : Char} (hcurrent : c.current? = some x) (hx : inClass x)
    (rest : Steps inClass c.advance d) : Steps inClass c d

/-- The loop of `Steps` stops at one place only. -/
theorem Steps.unique (h : Steps inClass c d) (h' : Steps inClass c e) : d = e := by
  -- At each cursor one rule of the three fits: the character decides.
  induction h with
  | atEnd hcurrent =>
    cases h' with
    | atEnd => rfl
    | outside => rfl
    | pass hcurrent' => cases hcurrent.symm.trans hcurrent'
  | outside hcurrent hx =>
    cases h' with
    | atEnd => rfl
    | outside => rfl
    | pass hcurrent' hx' =>
      cases hcurrent.symm.trans hcurrent'
      exact absurd hx' hx
  | pass hcurrent hx _ ih =>
    cases h' with
    | atEnd hcurrent' => cases hcurrent.symm.trans hcurrent'
    | outside hcurrent' hx' =>
      cases hcurrent.symm.trans hcurrent'
      exact absurd hx hx'
    | pass _ _ rest => exact ih rest

/-- The loop of `Steps` ends after the run of characters of the class. -/
theorem Stands.steps_skipWhile (h : c.Stands before after) (inClass : Char → Bool) :
    Steps inClass c (c.skipWhile inClass) := by
  -- Induction on the characters that are ahead, of which each round passes one.
  induction after generalizing c before with
  | nil =>
    have hcurrent : c.current? = none := h.current?_eq
    rw [h.skipWhile_eq, hcurrent]
    exact .atEnd hcurrent
  | cons x after ih =>
    have hcurrent : c.current? = some x := h.current?_eq
    rw [h.skipWhile_eq, hcurrent]
    by_cases hx : inClass x
    · simp only [hx, if_true]
      exact .pass hcurrent hx (ih h.advance)
    · simp only [hx]
      exact .outside hcurrent hx

/-! ## The search -/

/-- The search for a byte comes from one cursor to another one, and tells if it has found the byte:
what it does on the characters and on the bytes of the source. -/
structure Seeks (c : Cursor) (byte : UInt8) (found : Bool) (d : Cursor) : Prop where
  eq_skipWhile : d = c.skipWhile (· != Char.ofUInt8 byte)
  /-- The loop over the other characters stops where the search does, and nowhere else. -/
  steps_iff : ∀ e, Steps (· != Char.ofUInt8 byte) c e ↔ e = d
  found_iff : found = true ↔ d.current? = some (Char.ofUInt8 byte)
  missed : found = false → d.offset = c.sourceLength
  stands : ∃ before after, d.Stands before after
  offset_le : d.offset ≤ c.sourceLength
  /-- What is found is the byte, and none was passed. -/
  getElem?_found : found = true → c.source.toByteArray.data[d.offset]? = some byte
  getElem?_passed : ∀ i, c.offset ≤ i → i < d.offset → c.source.toByteArray.data[i]? ≠ some byte
  /-- The byte stands in no character but its own. -/
  stands_of_getElem? : ∀ i, c.source.toByteArray.data[i]? = some byte →
    ∃ before after, Stands { c with offset := i } before (Char.ofUInt8 byte :: after)

/-- A byte below 128 is one of the source exactly where its character is. -/
theorem getElem?_source_iff (hbyte : byte < 128) {i : Nat} :
    c.source.toByteArray.data[i]? = some byte ↔
      ∃ before after, Stands { c with offset := i } before (Char.ofUInt8 byte :: after) := by
  rw [← Array.getElem?_toList, ← Text.bytes_toList, Text.getElem?_bytes_iff hbyte]
  exact exists_congr fun before => exists_congr fun after =>
    ⟨fun h => ⟨h.1, h.2.symm⟩, fun h => ⟨h.toList_eq, h.offset_eq.symm⟩⟩

/-- The loop over the other characters passes no byte that is sought. -/
theorem Stands.getElem?_passed (h : c.Stands before after) (hbyte : byte < 128) {i : Nat}
    (hle : c.offset ≤ i) (hlt : i < (c.skipWhile (· != Char.ofUInt8 byte)).offset) :
    c.source.toByteArray.data[i]? ≠ some byte := by
  intro hi
  -- The byte would be a character, between the cursor and where the loop stops.
  obtain ⟨before', after', hat⟩ := (getElem?_source_iff hbyte).1 hi
  obtain ⟨piece, rfl, -⟩ := h.exists_between hat rfl hle
  obtain ⟨passed, hpassed, hrest⟩ :=
    hat.exists_between (h.skipWhile (· != Char.ofUInt8 byte)) rfl (Nat.le_of_lt hlt)
  -- The character would be among those that the loop has passed.
  have hmem : Char.ofUInt8 byte ∈ passed := by
    cases passed with
    | nil =>
      rw [List.append_nil] at hpassed
      rw [(h.skipWhile _).offset_eq, hpassed, ← hat.offset_eq] at hlt
      exact absurd hlt (Nat.lt_irrefl i)
    | cons x passed =>
      obtain ⟨rfl, -⟩ := List.cons.inj hrest
      exact List.mem_cons_self
  -- So it would be among the characters that differ from it.
  rw [List.append_assoc] at hpassed
  have hrun := List.append_cancel_left hpassed
  have htaken : Char.ofUInt8 byte ∈ after.takeWhile (· != Char.ofUInt8 byte) :=
    hrun ▸ List.mem_append_right piece hmem
  simpa using List.mem_takeWhile_imp htaken

/-- After the characters that are not the one sought, `dropWhile` leaves this one and what follows,
or nothing. -/
theorem dropWhile_bne (x : Char) (cs : List Char) :
    (x ∈ cs ∧ ∃ rest, cs.dropWhile (· != x) = x :: rest) ∨
    (x ∉ cs ∧ cs.dropWhile (· != x) = []) := by
  induction cs with
  | nil => simp
  | cons y cs ih =>
    by_cases hy : y = x
    · subst hy
      simp
    · simpa [hy, Ne.symm hy] using ih

/-- `Cursor.seek` agrees with the loop of `Steps` at a cursor between two characters. -/
theorem Stands.seeks (h : c.Stands before after) (hbyte : byte < 128) :
    c.Seeks byte (c.seek byte).1 (c.seek byte).2 := by
  have hskip := h.skipWhile (· != Char.ofUInt8 byte)
  have hsteps := h.steps_skipWhile (· != Char.ofUInt8 byte)
  have hcases := dropWhile_bne (Char.ofUInt8 byte) after
  rw [h.seek_eq hbyte]
  exact {
    eq_skipWhile := rfl
    steps_iff := fun e => ⟨fun he => he.unique hsteps, fun he => he ▸ hsteps⟩
    found_iff := by
      rw [decide_eq_true_iff, hskip.current?_eq]
      obtain ⟨hmem, rest, hrest⟩ | ⟨hmem, hrest⟩ := hcases <;> simp [hmem, hrest]
    -- What was not found is not in the rest, so the loop goes through to the end.
    missed := fun hmissed => by
      have hend := (hcases.resolve_left fun hfound => of_decide_eq_false hmissed hfound.1).2
      have hlength := hskip.sourceLength_eq
      rw [hend, Text.byteLength_nil, Nat.add_zero, ← hskip.offset_eq] at hlength
      exact hlength.symm
    stands := ⟨_, _, hskip⟩
    offset_le := hskip.offset_le
    getElem?_found := fun hfound => by
      obtain ⟨-, rest, hrest⟩ :=
        hcases.resolve_right fun hmissed => hmissed.1 (of_decide_eq_true hfound)
      exact (getElem?_source_iff hbyte).2 ⟨_, _, hrest ▸ hskip⟩
    getElem?_passed := fun i => h.getElem?_passed hbyte
    stands_of_getElem? := fun i => (getElem?_source_iff hbyte).1 }

/-- `Cursor.seek` agrees, for a byte below 128, with the loop over the characters at every cursor
that a `Course` reaches. -/
theorem seeks_of_course {source : String} {reached : List Cursor} (h : Course source c reached)
    (hd : d ∈ reached) (hbyte : byte < 128) : d.Seeks byte (d.seek byte).1 (d.seek byte).2 := by
  obtain ⟨-, before, after, hstands⟩ := h.stands d hd
  exact hstands.seeks hbyte

/-- A quote after characters of two and four bytes is found, and no second one after it. -/
theorem seeks_of_course_widths :
    Course "é😀'b" ⟨"é😀'b", 7⟩ [⟨"é😀'b", 7⟩, ⟨"é😀'b", 6⟩, ⟨"é😀'b", 0⟩] ∧ (39 : UInt8) < 128 ∧
    Seeks ⟨"é😀'b", 0⟩ 39 true ⟨"é😀'b", 6⟩ ∧ Seeks ⟨"é😀'b", 7⟩ 39 false ⟨"é😀'b", 8⟩ := by
  have hquote : (39 : UInt8) < 128 := by decide
  have hseek : Forward ⟨"é😀'b", 0⟩ ⟨"é😀'b", 6⟩ := .seek _ 39 hquote
  have hadvance : Forward ⟨"é😀'b", 6⟩ ⟨"é😀'b", 7⟩ := .advance _
  have hcourse : Course "é😀'b" ⟨"é😀'b", 7⟩ [⟨"é😀'b", 7⟩, ⟨"é😀'b", 6⟩, ⟨"é😀'b", 0⟩] :=
    .forward (.forward .start hseek) hadvance
  exact ⟨hcourse, hquote, seeks_of_course hcourse (by simp) hquote,
    seeks_of_course hcourse (by simp) hquote⟩

end Cursor

end ScriptCore
