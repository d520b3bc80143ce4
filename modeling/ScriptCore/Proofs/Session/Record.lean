import ScriptCore.Proofs.Session.Course

/-!
# Names over a run

A run is a list of operations, carried out one after the other from a session in which nothing has
happened.  Its record is the session that came of it and the history that the answers tell.

`run_names`: after any run a name resolves, from every living scope, to the nearest scope outwards
that has declared it; its value is the one written last to that binding, through whatever scope; and
it is constant if it was declared as such.
-/

namespace ScriptCore

/-- A session and what has happened in it. -/
structure Record where
  session : Session
  history : History

namespace Record

/-- A session in which nothing has happened. -/
def start (clock : Nat) (seed : UInt64) : Record := ⟨.start clock seed, []⟩

/-- Carries an operation out and records its event. -/
def next (r : Record) (operation : Operation) : Record :=
  let (answer, after) := r.session.step operation.step
  ⟨after, (operation.event? r.session after answer).toList ++ r.history⟩

/-- Carries operations out, one after the other. -/
def run (r : Record) (operations : List Operation) : Record := operations.foldl next r

/-- `Valid` records: `Sound` makes the holds right, and `Agrees` makes the store what the history
tells. -/
structure Valid (r : Record) : Prop where
  sound : r.session.Sound
  agrees : r.session.store.Agrees r.history

variable {r : Record}

/-- `next` puts the event of the operation, if there is one, before the history. -/
theorem history_next (r : Record) (operation : Operation) :
    (r.next operation).history =
      (operation.event? r.session (r.session.step operation.step).2
        (r.session.step operation.step).1).toList ++ r.history := rfl

/-- `Valid` is true of a session in which nothing has happened. -/
theorem valid_start (clock : Nat) (seed : UInt64) : (start clock seed).Valid :=
  ⟨Store.held_empty, Store.agrees_empty⟩

/-- `next` keeps a record `Valid`: one operation. -/
theorem Valid.next (h : r.Valid) (operation : Operation) : (r.next operation).Valid := by
  have hfollows := r.session.follows_step operation.step
  have hmoves := Session.moves_step h.sound operation
  exact ⟨hfollows.sound h.sound, hmoves.agrees h.sound h.agrees⟩

/-- `run` keeps a record `Valid`: all operations. -/
theorem Valid.run (h : r.Valid) (operations : List Operation) : (r.run operations).Valid := by
  induction operations generalizing r with
  | nil => exact h
  | cons operation rest ih => exact ih (h.next operation)

/-- As long as no handle is dropped, every scope that was opened has one. -/
theorem exists_handle_of_opened (h : r.Valid)
    (hhandles : ∀ scope outer, .opened scope outer ∈ r.history →
      ∃ handle, r.session.scope? handle = some scope)
    {operations : List Operation}
    (hkeep : ∀ operation ∈ operations, ∀ handle, operation ≠ .onScope handle .drop) :
    ∀ scope outer, .opened scope outer ∈ (r.run operations).history →
      ∃ handle, (r.run operations).session.scope? handle = some scope := by
  induction operations generalizing r with
  | nil => exact hhandles
  | cons operation rest ih =>
    obtain ⟨hfirst, hrest⟩ := List.forall_mem_cons.1 hkeep
    -- What was opened just now got a handle; what was opened before has kept its own.
    refine ih (h.next operation) ?_ hrest
    intro scope outer hopened
    rw [history_next, List.mem_append] at hopened
    rcases hopened with hnow | hbefore
    · have hmoves := Session.moves_step h.sound operation
      rw [Option.mem_toList.1 hnow] at hmoves
      exact hmoves.exists_handle
    · obtain ⟨handle, hscope⟩ := hhandles scope outer hbefore
      have hfollows := r.session.follows_step operation.step
      exact ⟨handle, hfollows.scope?_of_scope? hscope (operation.notMem_dropped (hfirst handle))⟩

/-- After any run the scopes of handles are alive, and if no handle was dropped, so are all scopes
that were opened.  Every scope was opened once, and every name was declared once in a scope.  The
scopes around a living scope are those it was opened in.  A name that none of them has declared is
unresolved.  Any other name resolves to the nearest of them that has declared it, stands there for
the value that was written last, and is constant if it was declared so. -/
theorem run_names (clock : Nat) (seed : UInt64) (operations : List Operation) :
    let session := ((start clock seed).run operations).session
    let history := ((start clock seed).run operations).history
    (∀ handle scope, session.scope? handle = some scope → session.store.Live scope) ∧
    ((∀ operation ∈ operations, ∀ handle, operation ≠ .onScope handle .drop) →
      ∀ scope outer, .opened scope outer ∈ history → session.store.Live scope) ∧
    history.creations.Nodup ∧
    ∀ scope, session.store.Live scope →
      session.store.chain scope = history.chain scope ∧
      ∀ name,
        (history.owner? scope name = none ∧
          session.store.resolve scope name = .error (.unresolved name) ∧
          session.store.lookup scope name = .error (.unresolved name) ∧
          session.store.isConstant scope name = .error (.unresolved name)) ∨
        ∃ owner value mutability,
          history.owner? scope name = some owner ∧
          history.lastWrite? owner name = some value ∧
          history.declared? owner name = some mutability ∧
          session.store.resolve scope name = .ok owner ∧
          session.store.lookup scope name = .ok value ∧
          session.store.isConstant scope name = .ok mutability.isConstant := by
  intro session history
  have hvalid : ((start clock seed).run operations).Valid := (valid_start clock seed).run operations
  refine ⟨fun handle scope he => hvalid.sound.live he, ?_, hvalid.agrees.once, ?_⟩
  · intro hkeep scope outer hopened
    -- Only a handle that is dropped can take a scope with it.
    obtain ⟨handle, he⟩ := exists_handle_of_opened (valid_start clock seed)
      (fun _ _ hmem => nomatch hmem) hkeep scope outer hopened
    exact hvalid.sound.live he
  intro scope hlive
  refine ⟨hvalid.agrees.chain_eq hlive, ?_⟩
  intro name
  rcases hvalid.agrees.cases hvalid.sound hlive name with ⟨hnone, hresolve⟩ |
    ⟨owner, b, howner, hresolve, hlookup, hvalue, hmutability⟩
  · -- No scope outwards has declared the name, so all three answers are the same error.
    have hlookup := Store.lookupBinding_of_unresolved hresolve
    refine .inl ⟨hnone, hresolve, ?_, ?_⟩
    · rw [Store.lookup, hlookup]
      rfl
    · rw [Store.isConstant, hlookup]
      rfl
  · -- The binding that was found is the one the history tells of.
    refine .inr ⟨owner, b.value, b.mutability, howner, hvalue, hmutability, hresolve, ?_, ?_⟩
    · rw [Store.lookup, hlookup]
      rfl
    · rw [Store.isConstant, hlookup]
      rfl

/-- A name that is assigned to from inside, and then declared there as a constant. -/
theorem run_names_shadowed :
    let operations : List Operation :=
      [.new, .onScope 0 (.declare "x" .null .mutable), .onScope 0 .child,
        .onScope 1 (.assign "x" (.boolean true)), .onScope 1 (.declare "x" (.string "y") .constant),
        .onScope 1 (.assign "x" .null)]
    let session := ((start 0 0).run operations).session
    session.store.Live ⟨0⟩ ∧ session.store.lookup ⟨0⟩ "x" = .ok (.boolean true) ∧
      session.store.isConstant ⟨0⟩ "x" = .ok false ∧
      session.store.Live ⟨1⟩ ∧ session.store.lookup ⟨1⟩ "x" = .ok (.string "y") ∧
      session.store.isConstant ⟨1⟩ "x" = .ok true := by
  intro operations session
  obtain ⟨hhandles, -, -, hnames⟩ := run_names 0 0 operations
  have houter : session.store.Live ⟨0⟩ := hhandles 0 ⟨0⟩ (by decide)
  have hinner : session.store.Live ⟨1⟩ := hhandles 1 ⟨1⟩ (by decide)
  -- What the history tells of `x` is computed, and what the store answers follows from it.
  have hread (scope owner : ScopeId) (value : Value) (m : Mutability)
      (hlive : session.store.Live scope)
      (howner : ((start 0 0).run operations).history.owner? scope "x" = some owner)
      (hvalue : ((start 0 0).run operations).history.lastWrite? owner "x" = some value)
      (hm : ((start 0 0).run operations).history.declared? owner "x" = some m) :
      session.store.lookup scope "x" = .ok value ∧
        session.store.isConstant scope "x" = .ok m.isConstant := by
    rcases (hnames scope hlive).2 "x" with ⟨hnone, -⟩ |
      ⟨owner', value', m', howner', hvalue', hm', -, hlookup, hconstant⟩
    · rw [hnone] at howner
      cases howner
    · cases howner.symm.trans howner'
      cases hvalue.symm.trans hvalue'
      cases hm.symm.trans hm'
      exact ⟨hlookup, hconstant⟩
  have hzero := hread ⟨0⟩ ⟨0⟩ (.boolean true) .mutable houter (by decide) rfl rfl
  have hone := hread ⟨1⟩ ⟨1⟩ (.string "y") .constant hinner (by decide) rfl rfl
  exact ⟨houter, hzero.1, hzero.2, hinner, hone.1, hone.2⟩

end Record

end ScriptCore
