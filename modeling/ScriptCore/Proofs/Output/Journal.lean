import Mathlib.Data.List.DropRight
import ScriptCore.Output

/-!
# What sinks keep

A journal tells what happens to sinks, oldest first: a text is written to one, or one is emptied by
taking what it keeps or by clearing it.  A sink that keeps what is written keeps the texts that were
written to it since it was last emptied, in order and whole; the others keep nothing.

* `Output.sink_write`, `Output.sink_emptied`, `Output.sink_add`: one sink changes, the others stay;
* `Output.Keeps`: the sinks keep what a journal tells;
* `Output.Keeps.step`: whatever is done with a sink, that stays so, with the entry that it is.
-/

namespace ScriptCore

/-- What happens to a sink. -/
inductive Entry where
  /-- A text is written to the sink. -/
  | emitted (sink : SinkId) (text : String)
  /-- What the sink keeps is read, and it is emptied. -/
  | taken (sink : SinkId)
  | cleared (sink : SinkId)
deriving DecidableEq

namespace Entry

/-- The sink that an entry is about. -/
def sink : Entry → SinkId
  | emitted sink _ | taken sink | cleared sink => sink

/-- The text that is written to a sink. -/
def textTo? (sink : SinkId) : Entry → Option String
  | emitted target text => if target = sink then some text else none
  | taken _ | cleared _ => none

/-- Whether a sink is emptied. -/
def empties (sink : SinkId) : Entry → Bool
  | emitted _ _ => false
  | taken target | cleared target => target = sink

variable {entry : Entry} {sink : SinkId}

/-- An entry about another sink writes nothing to this one. -/
theorem textTo?_of_ne (h : entry.sink ≠ sink) : entry.textTo? sink = none := by
  cases entry with
  | emitted target text => exact if_neg h
  | taken | cleared => rfl

/-- An entry about another sink does not empty this one. -/
theorem empties_of_ne (h : entry.sink ≠ sink) : entry.empties sink = false := by
  cases entry with
  | emitted => rfl
  | taken | cleared => exact decide_eq_false h

end Entry

/-- What happened to sinks, oldest first. -/
abbrev Journal := List Entry

namespace Journal

/-- The texts that were written to a sink. -/
def emitted (journal : Journal) (sink : SinkId) : List String :=
  journal.filterMap fun entry => entry.textTo? sink

/-- The texts that were written to a sink since it was last emptied. -/
def pending (journal : Journal) (sink : SinkId) : List String :=
  emitted (journal.rtakeWhile fun entry => !entry.empties sink) sink

variable {journal : Journal} {entry : Entry} {sink : SinkId}

/-- One more entry may be one more text that is `emitted`. -/
theorem emitted_concat : emitted (journal ++ [entry]) sink =
    emitted journal sink ++ (entry.textTo? sink).toList := by
  rw [emitted, List.filterMap_append, ← emitted]
  cases h : entry.textTo? sink <;> simp [h]

/-- One more entry leaves nothing `pending` where it empties the sink, and may be one more text
otherwise. -/
theorem pending_concat : pending (journal ++ [entry]) sink =
    if entry.empties sink then [] else pending journal sink ++ (entry.textTo? sink).toList := by
  -- Looking back from the new entry, the search ends there if the sink was emptied by it.
  rw [pending, List.rtakeWhile_concat]
  cases entry.empties sink with
  | true => rfl
  | false =>
    simp only [Bool.not_false, if_true, Bool.false_eq_true, if_false]
    rw [emitted_concat, ← pending]

/-- Nothing is `pending` for a sink that no entry is about. -/
theorem pending_of_forall_ne (h : ∀ entry ∈ journal, entry.sink ≠ sink) :
    pending journal sink = [] := by
  rw [pending, emitted, List.filterMap_eq_nil_iff]
  intro entry hentry
  exact Entry.textTo?_of_ne (h entry ((List.rtakeWhile_suffix _ _).subset hentry))

/-- What was taken from a sink and what is pending is all that was written to it, in order, unless it
was cleared. -/
def Balanced (journal : Journal) (sink : SinkId) (taken : List String) : Prop :=
  .cleared sink ∉ journal →
    String.join taken ++ String.join (pending journal sink) = String.join (emitted journal sink)

/-- An entry keeps a journal `Balanced`, if taking gives what is pending. -/
theorem Balanced.concat {taken : List String} (h : Balanced journal sink taken) (entry : Entry) :
    Balanced (journal ++ [entry]) sink
      (taken ++ if entry = .taken sink then [String.join (pending journal sink)] else []) := by
  intro hclear
  rw [List.mem_append, List.mem_singleton, not_or] at hclear
  obtain ⟨hbefore, hentry⟩ := hclear
  have hbalance := h hbefore
  rw [pending_concat, emitted_concat, String.join_append, String.join_append, ← hbalance]
  by_cases hsink : entry.sink = sink
  · -- A text is pending and emitted at once; taking moves what is pending to what was taken.
    obtain rfl := hsink
    cases entry with
    | emitted target text => simp [Entry.sink, Entry.empties, Entry.textTo?, String.append_assoc]
    | taken target => simp [Entry.sink, Entry.empties, Entry.textTo?]
    | cleared target => exact absurd rfl hentry
  · -- An entry about another sink changes nothing here.
    have hother : entry ≠ .taken sink := fun heq => hsink (heq ▸ rfl)
    rw [Entry.empties_of_ne hsink, Entry.textTo?_of_ne hsink, if_neg hother]
    simp

end Journal

/-- The entry that something done with a sink is, if it changes what is kept. -/
def SinkStep.entry? (sink : SinkId) : SinkStep → Option Entry
  | .print text => some (.emitted sink text)
  | .println text => some (.emitted sink (text ++ "\n"))
  | .take => some (.taken sink)
  | .clear => some (.cleared sink)
  | .output | .captures | .console => none

/-- What is done with a sink is an entry about it. -/
theorem SinkStep.sink_of_entry? {sink : SinkId} {step : SinkStep} {entry : Entry}
    (h : step.entry? sink = some entry) : entry.sink = sink := by
  cases step <;> cases h <;> rfl

namespace Sink

/-- A sink of the same kind; if it keeps what is written, it keeps the given text. -/
def holding (text : String) : Sink → Sink
  | buffer _ => buffer text
  | sink => sink

/-- Writing to a sink that keeps a text puts more behind the text. -/
theorem write_holding (kind : Sink) (before text : String) :
    (kind.holding before).write text = kind.holding (before ++ text) := by
  cases kind <;> rfl

/-- A sink that is `cleared` keeps the empty text. -/
theorem cleared_holding (kind : Sink) (text : String) :
    (kind.holding text).cleared = kind.holding "" := by
  cases kind <;> rfl

/-- A sink that captures has what it keeps to read, and the others have nothing. -/
theorem kept_holding (kind : Sink) (text : String) :
    (kind.holding text).kept = if kind.captures then text else "" := by
  cases kind <;> rfl

end Sink

namespace Output

variable {o : Output} {a b : SinkId} {text : String}

/-- Changing one of `Output.sinks` leaves the others. -/
theorem sink_modify (f : Sink → Sink) (hsilent : f .silent = .silent) (console : String) :
    (Output.mk (o.sinks.modify a.index f) console).sink b =
      if b = a then f (o.sink b) else o.sink b := by
  rw [sink, sink, Array.getElem?_modify]
  by_cases hindex : a.index = b.index
  · obtain rfl : a = b := by
      cases a
      cases b
      exact congrArg SinkId.mk hindex
    rw [if_pos rfl, if_pos rfl]
    -- A number that stands for no sink reads as a silent one.
    cases o.sinks[a.index]? with
    | none => exact hsilent.symm
    | some _ => rfl
  · rw [if_neg hindex, if_neg fun h => hindex (congrArg SinkId.index h.symm)]

/-- `Output.write` writes to one sink and to no other. -/
theorem sink_write :
    (o.write a text).sink b = if b = a then (o.sink b).write text else o.sink b :=
  sink_modify (Sink.write text) rfl _

/-- One sink is emptied and no other. -/
theorem sink_emptied :
    { o with sinks := o.sinks.modify a.index Sink.cleared }.sink b =
      if b = a then (o.sink b).cleared else o.sink b :=
  sink_modify Sink.cleared rfl _

/-- `Output.add` leaves the sinks that are there. -/
theorem sink_add {kind : Sink} (hb : b.index < o.sinks.size) :
    (o.add kind).2.sink b = o.sink b := by
  rw [sink, sink, add, Array.getElem?_push, if_neg hb.ne]

/-- `Output.add` gives a sink the first free number. -/
theorem sink_add_self {kind : Sink} : (o.add kind).2.sink ⟨o.sinks.size⟩ = kind := by
  rw [sink, add, Array.getElem?_push_size]
  rfl

/-- The sinks are of the given kinds and keep what a journal tells. -/
structure Keeps (o : Output) (kinds : List Sink) (journal : Journal) : Prop where
  size_eq : o.sinks.size = kinds.length
  /-- Nothing has happened to sinks that are not there. -/
  entry_lt : ∀ entry ∈ journal, entry.sink.index < kinds.length
  sink_eq : ∀ {sink : SinkId} {kind : Sink}, kinds[sink.index]? = some kind →
    o.sink sink = kind.holding (String.join (journal.pending sink))

variable {kinds : List Sink} {journal : Journal}

/-- A sink that does not keep what is written has nothing to read. -/
theorem Keeps.kept_eq (h : o.Keeps kinds journal) {kind : Sink}
    (hkind : kinds[a.index]? = some kind) :
    (o.sink a).kept = if kind.captures then String.join (journal.pending a) else "" := by
  rw [h.sink_eq hkind, Sink.kept_holding]

/-- No sinks and no journal are the beginning. -/
theorem keeps_empty : empty.Keeps [] [] :=
  ⟨rfl, nofun, nofun⟩

/-- A new sink `Keeps` nothing, and the others keep what they kept. -/
theorem Keeps.add (h : o.Keeps kinds journal) (kind : Sink) :
    (o.add kind.cleared).2.Keeps (kinds ++ [kind.cleared]) journal where
  size_eq := by
    rw [Output.add, Array.size_push, h.size_eq, List.length_append, List.length_singleton]
  entry_lt entry hentry := by
    rw [List.length_append]
    exact Nat.lt_add_right _ (h.entry_lt entry hentry)
  sink_eq := by
    intro sink other hother
    rcases lt_or_ge sink.index kinds.length with hlt | hge
    · rw [List.getElem?_append_left hlt] at hother
      rw [sink_add (h.size_eq ▸ hlt), h.sink_eq hother]
    · -- The new sink has the first free number, and nothing has happened to it.
      rw [List.getElem?_append_right hge, List.getElem?_singleton] at hother
      split at hother
      case isFalse => cases hother
      rename_i hindex
      cases hother
      obtain rfl : sink = ⟨o.sinks.size⟩ := by
        cases sink
        rw [h.size_eq]
        exact congrArg SinkId.mk (le_antisymm (Nat.sub_eq_zero_iff_le.1 hindex) hge)
      have hpending : journal.pending ⟨o.sinks.size⟩ = [] := by
        refine Journal.pending_of_forall_ne fun entry hentry heq => ?_
        have hlt := h.entry_lt entry hentry
        rw [heq, h.size_eq] at hlt
        exact lt_irrefl _ hlt
      rw [sink_add_self, hpending]
      cases kind <;> rfl

/-- A text that is written to a sink is kept after those that are. -/
theorem Keeps.write (h : o.Keeps kinds journal) (ha : a.index < kinds.length) (text : String) :
    (o.write a text).Keeps kinds (journal ++ [.emitted a text]) where
  size_eq := by rw [Output.write, Array.size_modify, h.size_eq]
  entry_lt := by
    simp only [List.forall_mem_append, List.forall_mem_singleton]
    exact ⟨h.entry_lt, ha⟩
  sink_eq := by
    intro sink kind hkind
    rw [sink_write, h.sink_eq hkind, Journal.pending_concat, Entry.empties, Entry.textTo?]
    -- The sink that is written to keeps one text more, and the journal has one more for it alone.
    by_cases hsink : sink = a
    · rw [if_pos hsink, if_pos hsink.symm, Sink.write_holding]
      simp
    · rw [if_neg hsink, if_neg (Ne.symm hsink)]
      simp

/-- A sink that is emptied keeps nothing. -/
theorem Keeps.emptied (h : o.Keeps kinds journal) (ha : a.index < kinds.length) {entry : Entry}
    (hentry : entry = .taken a ∨ entry = .cleared a) :
    { o with sinks := o.sinks.modify a.index Sink.cleared }.Keeps kinds (journal ++ [entry]) where
  size_eq := by rw [Array.size_modify, h.size_eq]
  entry_lt := by
    simp only [List.forall_mem_append, List.forall_mem_singleton]
    refine ⟨h.entry_lt, ?_⟩
    obtain rfl | rfl := hentry <;> exact ha
  sink_eq := by
    intro sink kind hkind
    -- Taking and clearing are the same to what is kept.
    have hempties : entry.empties sink = decide (a = sink) := by
      obtain rfl | rfl := hentry <;> rfl
    have htext : entry.textTo? sink = none := by
      obtain rfl | rfl := hentry <;> rfl
    rw [sink_emptied, h.sink_eq hkind, Journal.pending_concat, hempties, htext]
    by_cases hsink : sink = a
    · rw [if_pos hsink, if_pos (decide_eq_true hsink.symm), Sink.cleared_holding]
      rfl
    · rw [if_neg hsink, if_neg (by simpa using Ne.symm hsink)]
      simp

/-- Whatever is done with a sink, the output `Keeps` what the journal tells, with the entry that it
is. -/
theorem Keeps.step (h : o.Keeps kinds journal) (ha : a.index < kinds.length) (step : SinkStep) :
    (o.step a step).2.Keeps kinds (journal ++ (step.entry? a).toList) := by
  cases step with
  | print text => exact h.write ha text
  | println text => exact h.write ha (text ++ "\n")
  | take => exact h.emptied ha (.inl rfl)
  | clear => exact h.emptied ha (.inr rfl)
  | output | captures =>
    -- What only reads is no entry.
    rw [SinkStep.entry?, Option.toList_none, List.append_nil]
    exact h
  | console =>
    rw [SinkStep.entry?, Option.toList_none, List.append_nil]
    exact ⟨h.size_eq, h.entry_lt, h.sink_eq⟩

end Output

end ScriptCore
