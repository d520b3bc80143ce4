import Mathlib.Data.List.TakeWhile
import ScriptCore.Proofs.Text.Bytes
import ScriptCore.Token.Cursor
import ScriptCore.Token.Lexer

/-!
# Cursors stand between characters

A cursor counts bytes, but what is read at it are characters.  `Cursor.Stands` names the characters
before the cursor and those after it: the two pieces answer every question to the cursor, and a move
takes characters from the one to the other, so a cursor that stands between two characters never
comes to stand inside one.

A run may keep copies of its cursor and go back to them.  `Cursor.Course` lists the cursors that a
run has reached, and `Cursor.faithful_of_course` says what holds of all of them; the runs of a `Walk`
are such courses (`Walk.on_ofSource`, `Walk.on_run`).
-/

namespace ScriptCore

open Text (byteLength byteLength_append byteLength_cons)

namespace Cursor

/-- The cursor is where two pieces of its source meet. -/
structure Stands (c : Cursor) (before after : List Char) : Prop where
  toList_eq : c.source.toList = before ++ after
  offset_eq : c.offset = byteLength before

namespace Stands

variable {c d e : Cursor} {before after piece : List Char}

/-- `Cursor.ofSource` stands before all characters of its source. -/
theorem ofSource (source : String) : (Cursor.ofSource source).Stands [] source.toList :=
  ⟨rfl, rfl⟩

/-! ## What is asked at a cursor -/

/-- The source can be cut at a cursor that `Stands` between characters. -/
theorem splitAtByte?_eq (h : c.Stands before after) :
    Text.splitAtByte? c.offset c.source.toList = some (before, after) := by
  rw [h.toList_eq, h.offset_eq, Text.splitAtByte?_append]

/-- `Cursor.rest` is what is after the cursor. -/
theorem rest_eq (h : c.Stands before after) : c.rest = after := by
  rw [rest, h.splitAtByte?_eq, Option.map_some, Option.getD_some]

/-- `Cursor.current?` is the first character after the cursor. -/
theorem current?_eq (h : c.Stands before after) : c.current? = after[0]? := by
  rw [current?, h.rest_eq, List.head?_eq_getElem?]

/-- `Cursor.peek?` is the second one. -/
theorem peek?_eq (h : c.Stands before after) : c.peek? = after[1]? := by
  rw [peek?, h.rest_eq, List.head?_eq_getElem?, List.getElem?_tail]

/-- Only at the end `Cursor.current?` is nothing. -/
theorem current?_eq_none_iff (h : c.Stands before after) : c.current? = none ↔ after = [] := by
  rw [current?, h.rest_eq, List.head?_eq_none_iff]

/-- `Cursor.sourceLength` counts the characters on both sides. -/
theorem sourceLength_eq (h : c.Stands before after) :
    c.sourceLength = byteLength before + byteLength after := by
  rw [sourceLength, Text.utf8ByteSize_eq, h.toList_eq, byteLength_append]

/-- A cursor that `Stands` between characters is not beyond the end. -/
theorem offset_le (h : c.Stands before after) : c.offset ≤ c.sourceLength := by
  rw [h.sourceLength_eq, h.offset_eq]
  exact Nat.le_add_right _ _

/-- `Cursor.atEnd` holds where nothing is after the cursor. -/
theorem atEnd_iff (h : c.Stands before after) : c.atEnd ↔ after = [] := by
  rw [atEnd, decide_eq_true_iff, h.sourceLength_eq, h.offset_eq, ← Text.byteLength_eq_zero_iff]
  omega

/-- Of two cursors of one source, the later one has passed a piece more. -/
theorem exists_between {before' after' : List Char} (hc : c.Stands before after)
    (hd : d.Stands before' after') (hsource : c.source = d.source) (hle : c.offset ≤ d.offset) :
    ∃ piece, before' = before ++ piece ∧ after = piece ++ after' :=
  Text.exists_append_of_byteLength_le (by rw [← hc.toList_eq, ← hd.toList_eq, hsource])
    (by rwa [← hc.offset_eq, ← hd.offset_eq])

/-- `Cursor.slice?` cuts out the piece between two cursors, at any cursor of the source. -/
theorem slice?_eq (hc : c.Stands before (piece ++ after)) (hd : d.Stands (before ++ piece) after)
    (hsource : e.source = c.source) :
    e.slice? c.offset d.offset = some (String.ofList piece) := by
  rw [slice?, hsource, hc.toList_eq, hc.offset_eq, hd.offset_eq, byteLength_append,
    Text.slice?_append, Option.map_some]

/-! ## Moves -/

/-- A cursor that is put forward by the bytes of some characters passes these characters. -/
theorem forward (piece : List Char) (h : c.Stands before (piece ++ after)) :
    Stands { c with offset := c.offset + byteLength piece } (before ++ piece) after :=
  ⟨by rw [h.toList_eq, List.append_assoc], by rw [h.offset_eq, byteLength_append]⟩

/-- `Cursor.advance` moves over nothing at the end. -/
theorem advance_eq_self (h : c.Stands before []) : c.advance = c := by
  rw [Cursor.advance, h.current?_eq]
  rfl

/-- `Cursor.advance` moves over one character, if there is one. -/
theorem advance (h : c.Stands before after) :
    c.advance.Stands (before ++ after.take 1) (after.drop 1) := by
  cases after with
  | nil => simpa [h.advance_eq_self] using h
  | cons x after =>
    have hcurrent : c.current? = some x := h.current?_eq
    rw [Cursor.advance, hcurrent]
    exact forward [x] h

/-- `Cursor.skipWhile` moves over a run. -/
theorem skipWhile (h : c.Stands before after) (inClass : Char → Bool) :
    (c.skipWhile inClass).Stands (before ++ after.takeWhile inClass)
      (after.dropWhile inClass) := by
  rw [Cursor.skipWhile, h.rest_eq]
  exact forward _ (by rwa [List.takeWhile_append_dropWhile])

/-- `Cursor.skipWhile` moves over the first character of a run and skips the others. -/
theorem skipWhile_eq (h : c.Stands before after) (inClass : Char → Bool) :
    c.skipWhile inClass =
      match c.current? with
      | some x => if inClass x then c.advance.skipWhile inClass else c
      | none => c := by
  cases after with
  | nil => simp [Cursor.skipWhile, h.rest_eq, h.current?_eq]
  | cons x after =>
    have hcurrent : c.current? = some x := h.current?_eq
    have hrest : c.advance.rest = after := h.advance.rest_eq
    rw [hcurrent]
    by_cases hx : inClass x
    · have hadvance : c.advance = { c with offset := c.offset + x.utf8Size } := by
        rw [Cursor.advance, hcurrent]
      simp only [Cursor.skipWhile, h.rest_eq, hrest, List.takeWhile_cons_of_pos hx, hx, if_true,
        byteLength_cons]
      rw [hadvance, Nat.add_assoc]
    · simp [Cursor.skipWhile, h.rest_eq, hx]

/-- `Cursor.seek` finds a byte exactly if its character is ahead, and goes where the loop over the
other characters stops. -/
theorem seek_eq (h : c.Stands before after) {byte : UInt8} (hbyte : byte < 128) :
    c.seek byte =
      (decide (Char.ofUInt8 byte ∈ after), c.skipWhile (· != Char.ofUInt8 byte)) := by
  rw [Cursor.seek, h.rest_eq, Text.findIdx?_bytes hbyte]
  by_cases hmem : Char.ofUInt8 byte ∈ after
  · simp [hmem, Cursor.skipWhile, h.rest_eq]
  · -- Without such a character the run that is skipped is the whole rest.
    have hall : after.takeWhile (· != Char.ofUInt8 byte) = after :=
      List.takeWhile_eq_self_iff.2 fun x hx => by
        simp only [bne_iff_ne, ne_eq]
        rintro rfl
        exact hmem hx
    simp [hmem, Cursor.skipWhile, h.rest_eq, hall, h.sourceLength_eq, h.offset_eq]

end Stands

/-! ## Runs with saved places -/

/-- A cursor moves, over a character, over a run, or to a byte below 128. -/
inductive Forward : Cursor → Cursor → Prop
  | advance (c : Cursor) : Forward c c.advance
  | skipWhile (c : Cursor) (inClass : Char → Bool) : Forward c (c.skipWhile inClass)
  | seek (c : Cursor) (byte : UInt8) : byte < 128 → Forward c (c.seek byte).2

/-- A run from the start of a source is at a cursor, after it has reached the cursors of a list.  It
may go back to any of them. -/
inductive Course (source : String) : Cursor → List Cursor → Prop
  | start : Course source (.ofSource source) [.ofSource source]
  | forward {c d : Cursor} {reached : List Cursor} :
    Course source c reached → Forward c d → Course source d (d :: reached)
  | restore {c d : Cursor} {reached : List Cursor} :
    Course source c reached → d ∈ reached → Course source d reached

/-- What a cursor answers and where it moves, told by the characters before it and after it. -/
structure Refines (c : Cursor) (before after : List Char) : Prop where
  stands : c.Stands before after
  split : Text.splitAtByte? c.offset c.source.toList = some (before, after)
  offset_le : c.offset ≤ c.sourceLength
  current : c.current? = after[0]?
  peek : c.peek? = after[1]?
  atEnd : c.atEnd ↔ c.current? = none
  current_eq_none : c.current? = none ↔ after = []
  advance : c.advance.Stands (before ++ after.take 1) (after.drop 1)
  advance_eq_self : after = [] → c.advance = c
  skipWhile : ∀ inClass, (c.skipWhile inClass).Stands (before ++ after.takeWhile inClass)
    (after.dropWhile inClass)
  skipWhile_eq : ∀ inClass, c.skipWhile inClass =
    match c.current? with
    | some x => if inClass x then c.advance.skipWhile inClass else c
    | none => c
  seek : ∀ byte < 128, c.seek byte =
    (decide (Char.ofUInt8 byte ∈ after), c.skipWhile (· != Char.ofUInt8 byte))
  /-- No move goes back, and none takes the offset beyond 32 bits. -/
  forward : ∀ d, Forward c d → c.offset ≤ d.offset ∧ d.offset ≤ offsetLimit

/-- What holds of the cursors that a run over a source reaches. -/
structure Faithful (source : String) (reached : List Cursor) : Prop where
  source_eq : ∀ c ∈ reached, c.source = source
  refines : ∀ c ∈ reached, ∃ before after, c.Refines before after
  /-- Between two of them any cursor of the run cuts out just the characters between them. -/
  slice : ∀ c ∈ reached, ∀ d ∈ reached, c.offset ≤ d.offset →
    ∃ before piece after, c.Stands before (piece ++ after) ∧ d.Stands (before ++ piece) after ∧
      ∀ e ∈ reached, e.slice? c.offset d.offset = some (String.ofList piece)

variable {source : String} {c d : Cursor} {reached : List Cursor}

/-- A move `Forward` passes some of the characters that are ahead. -/
theorem Forward.stands (h : Forward c d) {before after : List Char}
    (hc : c.Stands before after) :
    d.source = c.source ∧ ∃ piece rest, after = piece ++ rest ∧ d.Stands (before ++ piece) rest := by
  have hskip (inClass : Char → Bool) : (c.skipWhile inClass).source = c.source ∧
      ∃ piece rest, after = piece ++ rest ∧ (c.skipWhile inClass).Stands (before ++ piece) rest :=
    ⟨rfl, _, _, List.takeWhile_append_dropWhile.symm, hc.skipWhile inClass⟩
  -- Each move is a run that is skipped, but for `advance`, which passes what it can.
  cases h with
  | advance =>
    refine ⟨?_, _, _, (List.take_append_drop 1 after).symm, hc.advance⟩
    rw [Cursor.advance]
    split <;> rfl
  | skipWhile inClass => exact hskip inClass
  | seek byte hbyte =>
    -- Seeking a byte skips the characters before its own.
    rw [hc.seek_eq hbyte]
    exact hskip _

/-- A move `Forward` does not go back. -/
theorem Forward.offset_le (h : Forward c d) {before after : List Char}
    (hc : c.Stands before after) : c.offset ≤ d.offset := by
  obtain ⟨-, piece, rest, -, hd⟩ := h.stands hc
  rw [hc.offset_eq, hd.offset_eq, byteLength_append]
  exact Nat.le_add_right _ _

/-- A cursor that `Stands` between characters answers and moves as they say. -/
theorem Stands.refines {before after : List Char} (h : c.Stands before after)
    (hsize : c.source.utf8ByteSize ≤ offsetLimit) : c.Refines before after where
  stands := h
  split := h.splitAtByte?_eq
  offset_le := h.offset_le
  current := h.current?_eq
  peek := h.peek?_eq
  atEnd := h.atEnd_iff.trans h.current?_eq_none_iff.symm
  current_eq_none := h.current?_eq_none_iff
  advance := h.advance
  advance_eq_self := fun hafter => by
    subst hafter
    exact h.advance_eq_self
  skipWhile := h.skipWhile
  skipWhile_eq := h.skipWhile_eq
  seek := fun _ hbyte => h.seek_eq hbyte
  forward := fun d hd => by
    -- Where a move ends is in the source, and that has a length of 32 bits at most.
    obtain ⟨hsource, piece, rest, -, hstands⟩ := hd.stands h
    have hend : d.offset ≤ d.sourceLength := hstands.offset_le
    rw [sourceLength, hsource] at hend
    exact ⟨hd.offset_le h, Nat.le_trans hend hsize⟩

namespace Course

/-- The cursor that a `Course` is at has been reached. -/
theorem mem (h : Course source c reached) : c ∈ reached := by
  cases h with
  | start => exact List.mem_singleton_self _
  | forward => exact List.mem_cons_self
  | restore _ hd => exact hd

/-- Every cursor of a `Course` stands between two characters. -/
theorem stands (h : Course source c reached) :
    ∀ d ∈ reached, d.source = source ∧ ∃ before after, d.Stands before after := by
  induction h with
  | start =>
    intro d hd
    rw [List.mem_singleton] at hd
    subst hd
    exact ⟨rfl, _, _, .ofSource source⟩
  | @forward c d reached hc hmove ih =>
    -- Only a move makes a cursor that was not reached before.
    obtain ⟨hsource, before, after, hstands⟩ := ih c hc.mem
    obtain ⟨hkeep, piece, rest, -, hd⟩ := hmove.stands hstands
    exact List.forall_mem_cons.2 ⟨⟨hkeep.trans hsource, _, _, hd⟩, ih⟩
  | restore _ _ ih => exact ih

end Course

/-- A `Course` over a source of at most 32-bit length refines a split of its characters: at each
cursor that it reaches, and between any two of them. -/
theorem faithful_of_course (hsize : source.utf8ByteSize ≤ offsetLimit)
    (h : Course source c reached) : Faithful source reached where
  source_eq := fun d hd => (h.stands d hd).1
  refines := fun d hd => by
    obtain ⟨rfl, before, after, hstands⟩ := h.stands d hd
    exact ⟨before, after, hstands.refines hsize⟩
  slice := fun d hd e he hle => by
    obtain ⟨hdsource, before, after, hdstands⟩ := h.stands d hd
    obtain ⟨hesource, before', after', hestands⟩ := h.stands e he
    -- The later cursor has passed the piece more.
    obtain ⟨piece, rfl, rfl⟩ :=
      hdstands.exists_between hestands (hdsource.trans hesource.symm) hle
    exact ⟨before, piece, after', hdstands, hestands, fun a ha =>
      hdstands.slice?_eq hestands ((h.stands a ha).1.trans hdsource.symm)⟩

/-- A run over characters of one, two and four bytes, to a quote and back. -/
theorem faithful_of_course_widths :
    "aé😀'b".utf8ByteSize ≤ offsetLimit ∧
    Course "aé😀'b" ⟨"aé😀'b", 1⟩ [⟨"aé😀'b", 7⟩, ⟨"aé😀'b", 1⟩, ⟨"aé😀'b", 0⟩] ∧
    Faithful "aé😀'b" [⟨"aé😀'b", 7⟩, ⟨"aé😀'b", 1⟩, ⟨"aé😀'b", 0⟩] := by
  have hsize : "aé😀'b".utf8ByteSize ≤ offsetLimit := by decide
  have hadvance : Forward ⟨"aé😀'b", 0⟩ ⟨"aé😀'b", 1⟩ := .advance _
  have hseek : Forward ⟨"aé😀'b", 1⟩ ⟨"aé😀'b", 7⟩ := .seek _ 39 (by decide)
  have hcourse : Course "aé😀'b" ⟨"aé😀'b", 1⟩
      [⟨"aé😀'b", 7⟩, ⟨"aé😀'b", 1⟩, ⟨"aé😀'b", 0⟩] :=
    .restore (.forward (.forward .start hadvance) hseek) (by simp)
  exact ⟨hsize, hcourse, faithful_of_course hsize hcourse⟩

end Cursor

/-! ## Walks -/

/-- A step that seeks does so for a byte below 128. -/
def Move.SeeksChar : Move → Prop
  | .seek byte => byte < 128
  | _ => True

namespace Walk

/-- Takes the steps of a list. -/
def run (w : Walk) (moves : List Move) : Walk := moves.foldl (fun w m => (w.step m).2) w

/-- A run has reached the place of the walk and those that it saved. -/
structure On (w : Walk) (source : String) (reached : List Cursor) : Prop where
  course : Cursor.Course source w.cursor reached
  saved : ∀ c ∈ w.saved, c ∈ reached

variable {w : Walk} {source : String} {reached : List Cursor}

/-- A walk begins at the start of its source. -/
theorem on_ofSource (source : String) : (ofSource source).On source [.ofSource source] :=
  ⟨.start, nofun⟩

/-- A step of a walk goes on with its `Course`. -/
theorem on_step {m : Move} (h : w.On source reached) (hm : m.SeeksChar) :
    ∃ reached', reached ⊆ reached' ∧ (w.step m).2.On source reached' := by
  have hforward {d : Cursor} (hd : Cursor.Forward w.cursor d) :
      ∃ reached', reached ⊆ reached' ∧ On { w with cursor := d } source reached' :=
    ⟨d :: reached, List.subset_cons_self _ _, h.course.forward hd,
      fun c hc => List.mem_cons_of_mem _ (h.saved c hc)⟩
  cases m with
  | stay => exact ⟨reached, List.Subset.refl _, h⟩
  | advance => exact hforward (.advance _)
  | skipWhile inClass => exact hforward (.skipWhile _ inClass)
  | seek byte => exact hforward (.seek _ byte hm)
  | slice => exact ⟨reached, List.Subset.refl _, h⟩
  | sliceFrom => exact ⟨reached, List.Subset.refl _, h⟩
  | save =>
    exact ⟨reached, List.Subset.refl _, h.course,
      List.forall_mem_cons.2 ⟨h.course.mem, h.saved⟩⟩
  -- What was saved last is where the walk goes back to.
  | restore =>
    obtain ⟨cursor, saved⟩ := w
    cases saved with
    | nil => exact ⟨reached, List.Subset.refl _, h⟩
    | cons c saved =>
      have ⟨hc, hsaved⟩ := List.forall_mem_cons.1 h.saved
      exact ⟨reached, List.Subset.refl _, h.course.restore hc, hsaved⟩

/-- `Walk.run` is a `Course` with saved places. -/
theorem on_run {moves : List Move} (h : w.On source reached) (hm : ∀ m ∈ moves, m.SeeksChar) :
    ∃ reached', reached ⊆ reached' ∧ (w.run moves).On source reached' := by
  induction moves generalizing w reached with
  | nil => exact ⟨reached, List.Subset.refl _, h⟩
  | cons m moves ih =>
    have ⟨hfirst, hothers⟩ := List.forall_mem_cons.1 hm
    obtain ⟨reached₁, hsub₁, h₁⟩ := on_step h hfirst
    obtain ⟨reached₂, hsub₂, h₂⟩ := ih h₁ hothers
    exact ⟨reached₂, List.Subset.trans hsub₁ hsub₂, h₂⟩

end Walk

end ScriptCore
