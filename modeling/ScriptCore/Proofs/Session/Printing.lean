import ScriptCore.Proofs.Output.Journal
import ScriptCore.Proofs.Session.Call

/-!
# Printing

Sinks are shared: several global scopes may print to one, and the host may write to it, read it and
empty it.  An activity is one step of all this, whoever takes it.  A host carries activities out on a
session, in any order, and remembers what it was answered.  A ledger tells from the activities alone
which sinks and global scopes there are and what happened to each sink.

* `Agrees.next`: each activity does what the ledger tells, and from this
* `accounts_of_activities`: after any activities a sink keeps exactly what was written to it since it
  was last emptied; nothing is lost, doubled, torn or sent to another sink.
-/

namespace ScriptCore

/-- A step that has to do with output, or one on scopes in between. -/
inductive Activity where
  /-- Makes a sink of a kind, with nothing kept in it. -/
  | newSink (kind : Sink)
  /-- Makes a global scope that prints to a sink. -/
  | newGlobal (sink : SinkId)
  | operation (operation : Operation)
  /-- Calls `print`, or `println` if `newline` is set, of a global scope, counted in the order in which
  they were made.  The call may come from any scope. -/
  | call (global : Nat) (newline : Bool) (arguments : List Value) (caller : ScopeId)
  | onSink (sink : SinkId) (step : SinkStep)

/-! ## The host -/

/-- What `print` or `println` stands for in a scope. -/
def Session.printer (s : Session) (scope : ScopeId) (newline : Bool) : Value :=
  (s.store.lookup scope (if newline then "println" else "print")).toOption.getD .null

/-- A host with a session. -/
structure Host where
  session : Session
  /-- The functions that print of each global scope, as they were when it was made. -/
  printers : List (Bool → Value)
  /-- The answers to what was done with sinks. -/
  answers : List (SinkId × SinkStep × Except Failure Answer)

namespace Host

/-- A host with a new session. -/
def start (clock : Nat) (seed : UInt64) : Host := ⟨.start clock seed, [], []⟩

/-- Makes a global scope over a sink and gives a handle to it. -/
def addGlobal (h : Host) (sink : SinkId) : Host :=
  match h.session.addGlobal sink with
  | (.ok scope, s) =>
    { h with session := (s.addHandle scope).2, printers := h.printers ++ [s.printer scope] }
  | (.error _, s) => { h with session := s }

/-- Carries an activity out.  A host uses only sinks and global scopes that it has. -/
def next (h : Host) : Activity → Host
  | .newSink kind =>
    { h with session := { h.session with output := (h.session.output.add kind.cleared).2 } }
  | .newGlobal sink => if sink.index < h.session.output.sinks.size then h.addGlobal sink else h
  | .operation operation => { h with session := (h.session.step operation.step).2 }
  | .call global newline arguments caller =>
    match h.printers[global]? with
    | some printer =>
      { h with session := (h.session.apply (printer newline) arguments caller).2 }
    | none => h
  | .onSink sink step =>
    if sink.index < h.session.output.sinks.size then
      { h with
        session := (h.session.step (.onSink sink step)).2
        answers := h.answers ++ [(sink, step, (h.session.step (.onSink sink step)).1)] }
    else h

/-- Carries activities out, one after the other. -/
def run (h : Host) (activities : List Activity) : Host := activities.foldl next h

/-- What was read from a sink while emptying it, oldest first. -/
def taken (h : Host) (sink : SinkId) : List String :=
  h.answers.filterMap fun
    | (target, .take, .ok (.text text)) => if target = sink then some text else none
    | _ => none

end Host

/-! ## The ledger -/

/-- The kinds of the sinks, the sinks of the global scopes, and what happened to the sinks. -/
structure Ledger where
  kinds : List Sink
  targets : List SinkId
  journal : Journal

/-- What a call prints: the arguments with a space between two, and the end of the line, if there is
one. -/
def printed (newline : Bool) (arguments : List Value) : String :=
  " ".intercalate (arguments.map Value.display) ++ if newline then "\n" else ""

namespace Ledger

/-- Nothing has happened. -/
def empty : Ledger := ⟨[], [], []⟩

/-- The entry that an activity is. -/
def entry? (l : Ledger) : Activity → Option Entry
  | .call global newline arguments _ =>
    l.targets[global]?.map fun target => .emitted target (printed newline arguments)
  | .onSink sink step => if sink.index < l.kinds.length then step.entry? sink else none
  | .newSink _ | .newGlobal _ | .operation _ => none

/-- Enters an activity. -/
def next (l : Ledger) (activity : Activity) : Ledger where
  kinds := match activity with
    | .newSink kind => l.kinds ++ [kind.cleared]
    | _ => l.kinds
  targets := match activity with
    | .newGlobal sink => if sink.index < l.kinds.length then l.targets ++ [sink] else l.targets
    | _ => l.targets
  journal := l.journal ++ (l.entry? activity).toList

/-- Enters activities, one after the other. -/
def run (l : Ledger) (activities : List Activity) : Ledger := activities.foldl next l

end Ledger

/-! ## Agreement -/

namespace Session

variable {s : Session} {sink : SinkId} {newline : Bool} {f : Native}

/-- A value is a function that prints to a sink. -/
def PrintsTo (s : Session) (newline : Bool) (sink : SinkId) (printer : Value) : Prop :=
  ∃ f : Native, printer = .native f ∧ s.natives[f.id]? = some (.printer sink newline)

/-- `PrintsTo` functions write once to their sink, answer null and do nothing else. -/
theorem PrintsTo.apply_eq {printer : Value} (h : s.PrintsTo newline sink printer)
    (arguments : List Value) (caller : ScopeId) :
    ∃ f : Native, printer = .native f ∧ s.apply printer arguments caller =
      (.ok (f, .null), { s with output := s.output.write sink (printed newline arguments) }) := by
  obtain ⟨f, rfl, hbody⟩ := h
  have hline : Output.line (Value.displayAll arguments) newline = printed newline arguments := by
    rw [Output.line, printed, Value.displayAll]
    cases newline <;> simp
  refine ⟨f, rfl, ?_⟩
  rw [apply, invoke, hbody]
  dsimp only
  rw [hline]
  rfl

/-- `PrintsTo` is true of the functions that print in a new global scope, with its sink. -/
theorem printsTo_addGlobal (s : Session) (sink : SinkId) (newline : Bool) :
    (s.addGlobal sink).2.PrintsTo newline sink
      ((s.addGlobal sink).2.printer s.store.addRoot.1 newline) := by
  -- The two functions come first in the catalogue.
  have hglobals := s.hasGlobals_addGlobal sink
  have hprint : Builtin.catalogue[0]? = some ⟨"print", .output false⟩ := rfl
  have hprintln : Builtin.catalogue[1]? = some ⟨"println", .output true⟩ := rfl
  cases newline with
  | false =>
    obtain ⟨f, -, hlookup, hbody⟩ := hglobals.exists_native (List.mem_of_getElem? hprint)
    refine ⟨f, ?_, hbody⟩
    rw [printer, if_neg Bool.false_ne_true, hlookup]
    rfl
  | true =>
    obtain ⟨f, -, hlookup, hbody⟩ := hglobals.exists_native (List.mem_of_getElem? hprintln)
    refine ⟨f, ?_, hbody⟩
    rw [printer, if_pos rfl, hlookup]
    rfl

/-- `addGlobal` leaves the output. -/
theorem output_addGlobal (s : Session) (sink : SinkId) :
    (s.addGlobal sink).2.output = s.output := by
  rw [addGlobal_eq]

/-- `addGlobal` leaves the native functions that are there. -/
theorem native_addGlobal {i : Nat} {body : NativeBody} (hbody : s.natives[i]? = some body)
    (sink : SinkId) : (s.addGlobal sink).2.natives[i]? = some body := by
  have hwrites := s.writes_natives
    (Builtin.catalogue.map fun builtin => bodyOf sink builtin.behaviour) s.output
  rw [addGlobal_eq]
  exact hwrites.native_of_native hbody

/-- `Operation.step` leaves the output. -/
theorem output_step (s : Session) (operation : Operation) :
    (s.step operation.step).2.output = s.output := by
  cases operation with
  | new => rfl
  | onScope handle operation =>
    rw [Operation.step, step]
    cases he : s.scope? handle with
    | none => rfl
    | some e =>
      -- Only the steps that first look which scope there is need more than their definition.
      cases operation with
      | drop =>
        show (s.dropHandle handle).output = s.output
        rw [dropHandle_eq he]
      | parent =>
        show (s.scopeStep handle e .parent).2.output = s.output
        rw [scopeStep]
        cases s.store.parent? e <;> rfl
      | child | clone | root | declare | assign | lookup | resolve | isConstant => rfl

end Session

namespace Host

variable {h : Host} {l : Ledger} {sink : SinkId} {kind : Sink}

/-- The host has the sinks and the global scopes of the ledger, the sinks keep what the journal
tells, and what was taken is in balance with it. -/
structure Agrees (h : Host) (l : Ledger) : Prop where
  keeps : h.session.output.Keeps l.kinds l.journal
  target_lt : ∀ target ∈ l.targets, target.index < l.kinds.length
  prints : List.Forall₂
    (fun printer target => ∀ newline, h.session.PrintsTo newline target (printer newline))
    h.printers l.targets
  balanced : ∀ {sink : SinkId}, (∀ kind ∈ l.kinds[sink.index]?, kind.captures = true) →
    l.journal.Balanced sink (h.taken sink)

/-- `Agrees` is true of a new host and the empty ledger. -/
theorem agrees_start (clock : Nat) (seed : UInt64) : (start clock seed).Agrees .empty :=
  ⟨Output.keeps_empty, nofun, .nil, fun _ _ => rfl⟩

/-- `PrintsTo` stays true as long as native functions stay. -/
theorem prints_mono {s s' : Session} {printers : List (Bool → Value)} {targets : List SinkId}
    (hnatives : ∀ {i : Nat} {body : NativeBody}, s.natives[i]? = some body →
      s'.natives[i]? = some body)
    (hprints : List.Forall₂
      (fun printer target => ∀ newline, s.PrintsTo newline target (printer newline))
      printers targets) :
    List.Forall₂ (fun printer target => ∀ newline, s'.PrintsTo newline target (printer newline))
      printers targets := by
  refine hprints.imp fun printer target hprinter newline => ?_
  obtain ⟨f, hf, hbody⟩ := hprinter newline
  exact ⟨f, hf, hnatives hbody⟩

/-- `Agrees` gives the function that prints to each target of the ledger. -/
theorem Agrees.exists_printer (ha : h.Agrees l) {global : Nat} {target : SinkId}
    (htarget : l.targets[global]? = some target) :
    ∃ printer, h.printers[global]? = some printer ∧
      ∀ newline, h.session.PrintsTo newline target (printer newline) := by
  obtain ⟨hlt, rfl⟩ := List.getElem?_eq_some_iff.1 htarget
  have hlt' : global < h.printers.length := ha.prints.length_eq ▸ hlt
  exact ⟨_, List.getElem?_eq_getElem hlt', ha.prints.get hlt' hlt⟩

/-! ## Activities -/

/-- `Agrees` is kept by a new sink, which has nothing in it. -/
theorem Agrees.newSink (ha : h.Agrees l) (kind : Sink) :
    (h.next (.newSink kind)).Agrees (l.next (.newSink kind)) where
  keeps := by
    rw [Ledger.next, Ledger.entry?, Option.toList_none, List.append_nil]
    exact ha.keeps.add kind
  target_lt target htarget := by
    have hlt := ha.target_lt target htarget
    simp only [Ledger.next, List.length_append]
    omega
  prints := prints_mono (fun hbody => hbody) ha.prints
  balanced := by
    intro sink hcaptures
    simp only [Ledger.next, Ledger.entry?, Option.toList_none, List.append_nil] at hcaptures ⊢
    -- A sink that was there before is of the kind that it was.
    refine ha.balanced fun other hother => hcaptures other ?_
    have hlt := (List.getElem?_eq_some_iff.1 hother).1
    rw [List.getElem?_append_left hlt]
    exact hother

/-- `Agrees` is kept by a new global scope, with its sink as the target of its functions. -/
theorem Agrees.newGlobal (ha : h.Agrees l) (sink : SinkId) :
    (h.next (.newGlobal sink)).Agrees (l.next (.newGlobal sink)) := by
  by_cases hsink : sink.index < l.kinds.length
  case neg =>
    have hhost : h.next (.newGlobal sink) = h := if_neg (ha.keeps.size_eq ▸ hsink)
    have hledger : l.next (.newGlobal sink) = l := by
      simp [Ledger.next, Ledger.entry?, hsink]
    rw [hhost, hledger]
    exact ha
  have hledger : l.next (.newGlobal sink) = { l with targets := l.targets ++ [sink] } := by
    simp [Ledger.next, Ledger.entry?, hsink]
  have hhost : h.next (.newGlobal sink) =
      { h with
        session := ((h.session.addGlobal sink).2.addHandle h.session.store.addRoot.1).2
        printers := h.printers ++
          [(h.session.addGlobal sink).2.printer h.session.store.addRoot.1] } := by
    rw [next, if_pos (ha.keeps.size_eq ▸ hsink), addGlobal, Session.addGlobal_eq]
  rw [hhost, hledger]
  refine ⟨?_, ?_, ?_, ha.balanced⟩
  · show (h.session.addGlobal sink).2.output.Keeps l.kinds l.journal
    rw [Session.output_addGlobal]
    exact ha.keeps
  · simp only [List.forall_mem_append, List.forall_mem_singleton]
    exact ⟨ha.target_lt, hsink⟩
  · -- Those of the global scopes of before still print to their sinks, and the new ones to this one.
    have hold := prints_mono (fun hbody => Session.native_addGlobal hbody sink) ha.prints
    exact List.rel_append hold (.cons (h.session.printsTo_addGlobal sink) .nil)

/-- `Agrees` is kept by operations on scopes, which are not in the ledger. -/
theorem Agrees.operation (ha : h.Agrees l) (operation : Operation) :
    (h.next (.operation operation)).Agrees (l.next (.operation operation)) := by
  have hledger : l.next (.operation operation) = l := by
    simp [Ledger.next, Ledger.entry?]
  rw [hledger]
  have hfollows := h.session.follows_step operation.step
  refine ⟨?_, ha.target_lt, prints_mono hfollows.native_of_native ha.prints, ha.balanced⟩
  show (h.session.step operation.step).2.output.Keeps l.kinds l.journal
  rw [Session.output_step]
  exact ha.keeps

/-- `Agrees` is kept by a call of a function that prints: it writes what the ledger enters. -/
theorem Agrees.call (ha : h.Agrees l) (global : Nat) (newline : Bool) (arguments : List Value)
    (caller : ScopeId) :
    (h.next (.call global newline arguments caller)).Agrees
      (l.next (.call global newline arguments caller)) := by
  cases htarget : l.targets[global]? with
  | none =>
    -- There is no such global scope, on either side.
    have hprinter : h.printers[global]? = none := by
      rw [List.getElem?_eq_none_iff] at htarget ⊢
      exact ha.prints.length_eq ▸ htarget
    have hhost : h.next (.call global newline arguments caller) = h := by
      rw [next, hprinter]
    have hledger : l.next (.call global newline arguments caller) = l := by
      simp [Ledger.next, Ledger.entry?, htarget]
    rw [hhost, hledger]
    exact ha
  | some target =>
    obtain ⟨printer, hprinter, hprints⟩ := ha.exists_printer htarget
    obtain ⟨f, -, hcall⟩ := (hprints newline).apply_eq arguments caller
    have hhost : h.next (.call global newline arguments caller) =
        { h with session := { h.session with
          output := h.session.output.write target (printed newline arguments) } } := by
      rw [next, hprinter]
      dsimp only
      rw [hcall]
    have hledger : l.next (.call global newline arguments caller) =
        { l with journal := l.journal ++ [.emitted target (printed newline arguments)] } := by
      simp [Ledger.next, Ledger.entry?, htarget]
    have hlt := ha.target_lt target (List.mem_of_getElem? htarget)
    rw [hhost, hledger]
    refine ⟨ha.keeps.write hlt _, ha.target_lt, ha.prints, fun {sink} hcaptures => ?_⟩
    -- Nothing was taken, so the entry keeps the balance as it is.
    have hbalanced := (ha.balanced hcaptures).concat (.emitted target (printed newline arguments))
    rw [if_neg nofun, List.append_nil] at hbalanced
    exact hbalanced

/-- `taken` from a sink is what it keeps. -/
theorem taken_onSink {target : SinkId} {step : SinkStep}
    (hsize : target.index < h.session.output.sinks.size) :
    (h.next (.onSink target step)).taken sink =
      h.taken sink ++ if step.entry? target = some (.taken sink) then
        [(h.session.output.sink sink).kept] else [] := by
  rw [next, if_pos hsize, taken, List.filterMap_append, ← taken]
  -- One answer is added, and it counts if it is that of taking from this sink.
  cases step with
  | take =>
    by_cases hsink : target = sink
    · subst hsink
      simp [SinkStep.entry?, Session.step, Output.step]
    · simp [SinkStep.entry?, Session.step, Output.step, hsink]
  | print | println | output | clear | captures | console => simp [SinkStep.entry?]

/-- `Agrees` is kept by a step on a sink. -/
theorem Agrees.onSink (ha : h.Agrees l) (sink : SinkId) (step : SinkStep) :
    (h.next (.onSink sink step)).Agrees (l.next (.onSink sink step)) := by
  by_cases hsink : sink.index < l.kinds.length
  case neg =>
    have hhost : h.next (.onSink sink step) = h := if_neg (ha.keeps.size_eq ▸ hsink)
    have hledger : l.next (.onSink sink step) = l := by
      simp [Ledger.next, Ledger.entry?, hsink]
    rw [hhost, hledger]
    exact ha
  have hsize : sink.index < h.session.output.sinks.size := ha.keeps.size_eq ▸ hsink
  have hledger : l.next (.onSink sink step) =
      { l with journal := l.journal ++ (step.entry? sink).toList } := by
    simp [Ledger.next, Ledger.entry?, hsink]
  have hsession : (h.next (.onSink sink step)).session =
      { h.session with output := (h.session.output.step sink step).2 } := by
    rw [next, if_pos hsize]
    rfl
  have hprinters : (h.next (.onSink sink step)).printers = h.printers := by
    rw [next, if_pos hsize]
  rw [hledger]
  refine ⟨?_, ha.target_lt, ?_, fun {other} hcaptures => ?_⟩
  · rw [hsession]
    exact ha.keeps.step hsink step
  · rw [hsession, hprinters]
    exact ha.prints
  · rw [taken_onSink hsize]
    have hbalanced := ha.balanced hcaptures
    cases hentry : step.entry? sink with
    | none => simpa using hbalanced
    | some entry =>
      have hnext := hbalanced.concat entry
      by_cases htaken : entry = .taken other
      · -- What is taken is what was pending, since the sink keeps what is written.
        obtain rfl : other = sink := (htaken ▸ SinkStep.sink_of_entry? hentry :)
        have hkind := List.getElem?_eq_getElem hsink
        have hkept := ha.keeps.kept_eq hkind
        rw [if_pos (hcaptures _ hkind)] at hkept
        rw [if_pos htaken, ← hkept] at hnext
        rw [if_pos (congrArg some htaken)]
        exact hnext
      · simpa [htaken] using hnext

/-- `Agrees` is kept by each activity, which does what the ledger tells. -/
theorem Agrees.next (ha : h.Agrees l) (activity : Activity) :
    (h.next activity).Agrees (l.next activity) := by
  cases activity with
  | newSink kind => exact ha.newSink kind
  | newGlobal sink => exact ha.newGlobal sink
  | operation operation => exact ha.operation operation
  | call global newline arguments caller => exact ha.call global newline arguments caller
  | onSink sink step => exact ha.onSink sink step

/-- `Agrees` is kept by activities in any order. -/
theorem Agrees.run (ha : h.Agrees l) (activities : List Activity) :
    (h.run activities).Agrees (l.run activities) := by
  -- Host and ledger go on together, so both are generalized.
  induction activities generalizing h l with
  | nil => exact ha
  | cons activity rest ih => exact ih (ha.next activity)

/-! ## Accounts -/

/-- `Host.next` changes no sink but the one that the entry of the activity is about. -/
theorem Agrees.sink_next (ha : h.Agrees l) {activity : Activity} (hsink : sink.index < l.kinds.length)
    (hentry : ∀ entry ∈ l.entry? activity, entry.sink ≠ sink) :
    (h.next activity).session.output.sink sink = h.session.output.sink sink := by
  have hkind := List.getElem?_eq_getElem hsink
  have hkind' : (l.next activity).kinds[sink.index]? = some l.kinds[sink.index] := by
    cases activity with
    | newSink kind =>
      show (l.kinds ++ [kind.cleared])[sink.index]? = _
      rw [List.getElem?_append_left hsink, hkind]
    | newGlobal | operation | call | onSink => exact hkind
  -- Both times the sink keeps what is pending, and no entry about it has come between.
  rw [(ha.next activity).keeps.sink_eq hkind', ha.keeps.sink_eq hkind]
  congr 2
  show Journal.pending (l.journal ++ (l.entry? activity).toList) sink = _
  cases hactivity : l.entry? activity with
  | none => rw [Option.toList_none, List.append_nil]
  | some entry =>
    have hne := hentry entry hactivity
    rw [Option.toList_some, Journal.pending_concat, Entry.empties_of_ne hne,
      Entry.textTo?_of_ne hne]
    simp

/-- What the output of a host can be relied on for, by its ledger. -/
structure Accounts (h : Host) (l : Ledger) : Prop where
  sinks_size : h.session.output.sinks.size = l.kinds.length
  printers_length : h.printers.length = l.targets.length
  /-- A sink that keeps what is written keeps exactly the texts that were written to it since it was
  last emptied, in order. -/
  buffer : ∀ {sink : SinkId} {kind : Sink}, l.kinds[sink.index]? = some kind →
    kind.captures = true →
    h.session.output.sink sink = .buffer (String.join (l.journal.pending sink))
  /-- Reading answers what is kept, and nothing where nothing is. -/
  reading : ∀ {sink : SinkId} {kind : Sink} {step : SinkStep},
    l.kinds[sink.index]? = some kind → step = .output ∨ step = .take →
    (h.session.step (.onSink sink step)).1 =
      .ok (.text (if kind.captures then String.join (l.journal.pending sink) else ""))
  /-- What was taken from a sink and what it still keeps is everything that was ever written to it, if
  it was never cleared. -/
  balanced : ∀ {sink : SinkId} {kind : Sink}, l.kinds[sink.index]? = some kind →
    kind.captures = true → .cleared sink ∉ l.journal →
    String.join (h.taken sink) ++ (h.session.output.sink sink).kept =
      String.join (l.journal.emitted sink)
  /-- An activity leaves all sinks but the one that it writes to or empties. -/
  separate : ∀ {activity : Activity} {sink : SinkId}, sink.index < l.kinds.length →
    (∀ entry ∈ l.entry? activity, entry.sink ≠ sink) →
    (h.next activity).session.output.sink sink = h.session.output.sink sink
  /-- The functions that print of each global scope answer null and leave the scopes with their
  bindings. -/
  call : ∀ {global : Nat} {printer : Bool → Value}, h.printers[global]? = some printer →
    ∀ newline arguments caller, ∃ f : Native, printer newline = .native f ∧
      (h.session.apply (printer newline) arguments caller).1 = .ok (f, .null) ∧
      (h.session.apply (printer newline) arguments caller).2.store = h.session.store

/-- `Agrees` makes the output of the host one that the ledger accounts for. -/
theorem Agrees.accounts (ha : h.Agrees l) : h.Accounts l where
  sinks_size := ha.keeps.size_eq
  printers_length := ha.prints.length_eq
  buffer := by
    intro sink kind hkind hcaptures
    rw [ha.keeps.sink_eq hkind]
    cases kind with
    | buffer => rfl
    | silent | console => cases hcaptures
  reading := by
    intro sink kind step hkind hstep
    rw [← ha.keeps.kept_eq hkind]
    obtain rfl | rfl := hstep <;> rfl
  balanced := by
    intro sink kind hkind hcaptures hclear
    rw [ha.keeps.kept_eq hkind, if_pos hcaptures]
    refine ha.balanced (fun other hother => ?_) hclear
    cases hkind.symm.trans hother
    exact hcaptures
  separate := ha.sink_next
  call := by
    intro global printer hprinter newline arguments caller
    obtain ⟨hlt, -⟩ := List.getElem?_eq_some_iff.1 hprinter
    have htarget := List.getElem?_eq_getElem (ha.prints.length_eq ▸ hlt : global < l.targets.length)
    -- The functions in the host are those that print to the sink in the ledger.
    obtain ⟨other, hother, hprints⟩ := ha.exists_printer htarget
    cases hprinter.symm.trans hother
    obtain ⟨f, hf, hcall⟩ := (hprints newline).apply_eq arguments caller
    refine ⟨f, hf, ?_, ?_⟩ <;> rw [hcall]

end Host

/-- After any activities, in any order, the output of the host is what the activities tell.  A sink
that keeps what is written keeps the texts that were written to it since it was last emptied, each as
a whole; the others read back empty; and nothing is lost or doubled or comes to another sink. -/
theorem accounts_of_activities (clock : Nat) (seed : UInt64) (activities : List Activity) :
    ((Host.start clock seed).run activities).Accounts (Ledger.empty.run activities) :=
  ((Host.agrees_start clock seed).run activities).accounts

/-- Two global scopes print to one sink, while the host writes to it and to another one. -/
example :
    let ledger := Ledger.empty.run
      [.newSink .newBuffer, .newSink .silent, .newGlobal ⟨0⟩, .newGlobal ⟨0⟩,
        .call 0 true [.null, .boolean true] ⟨0⟩, .onSink ⟨0⟩ .take, .call 1 false [.string "a"] ⟨0⟩,
        .onSink ⟨1⟩ (.print "b"), .onSink ⟨0⟩ (.println "c"), .call 0 false [] ⟨5⟩]
    ledger.journal.emitted ⟨0⟩ = ["null true\n", "a", "c\n", ""] ∧
      ledger.journal.pending ⟨0⟩ = ["a", "c\n", ""] := by
  decide

end ScriptCore
