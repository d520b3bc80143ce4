import ScriptCore.Proofs.Scope.History
import ScriptCore.Session.Step

/-!
# Operations on scopes

Of the steps of a session, the operations are those that make scopes and handles, give handles up,
declare and assign values, and look names up.  `Moves` lists everything that an operation can do to
a session, with the event that it is.  What operations preserve is proved from this list.

* `moves_step`: each operation is a move;
* `Moves.agrees`: after a move the store is still what the history tells;
* `Moves.exists_handle`: a scope that is opened has a handle.
-/

namespace ScriptCore

/-- An operation on the scope of a handle. -/
inductive ScopeOperation where
  | child
  | clone
  | parent
  | root
  | drop
  | declare (name : String) (value : Value) (mutability : Mutability)
  | assign (name : String) (value : Value)
  | lookup (name : String)
  | resolve (name : String)
  | isConstant (name : String)

/-- An operation: a new outermost scope, or one on the scope of a handle. -/
inductive Operation where
  | new
  | onScope (handle : Nat) (operation : ScopeOperation)

/-- The step on a scope that an operation is. -/
def ScopeOperation.step : ScopeOperation → ScopeStep
  | child => .child 1
  | clone => .clone
  | parent => .parent
  | root => .root
  | drop => .drop
  | declare name value mutability => .declare name (.value value) mutability
  | assign name value => .assign name (.value value)
  | lookup name => .lookup name
  | resolve name => .resolve name
  | isConstant name => .isConstant name

/-- The event that an operation on a scope is, told from what it answered and from what the handles
stand for after it. -/
def ScopeOperation.event? (scope : ScopeId) (after : Session) :
    ScopeOperation → Answer → Option Event
  | child, .handle number _ => (after.scope? number).map (.opened · (some scope))
  | declare name value mutability, _ => some (.declared scope name value mutability)
  | assign name value, _ => some (.assigned scope name value)
  | _, _ => none

namespace Operation

/-- The step that an operation is. -/
def step : Operation → Step
  | new => .newRoot
  | onScope handle operation => .onScope handle operation.step

/-- The event that an operation is, told from what it answered and from what the handles stood for
before and after it.  An operation that failed is none. -/
def event? (before after : Session) : Operation → Except Failure Answer → Option Event
  | new, .ok (.handle number _) => (after.scope? number).map (.opened · none)
  | onScope handle operation, .ok answer =>
    (before.scope? handle).bind fun scope => operation.event? scope after answer
  | _, _ => none

end Operation

/-- A new scope inside another one.  It is held by its handle alone: the hold that is taken on the
outer one meanwhile is given up. -/
def Store.openInside (s : Store) (id : ScopeId) : ScopeId × Store :=
  (((s.retain id).addChild id).1, ((s.retain id).addChild id).2.release id)

namespace Session

/-- The session with a new scope, to which it gives a handle. -/
def openHandle (s : Session) (new : ScopeId × Store) : Session :=
  ({ s with store := new.2 }.addHandle new.1).2

/-- The scopes that handles stand for, once for each handle. -/
def held (s : Session) : Multiset ScopeId := s.handles.toList.filterMap id

/-- The holds on the scopes are those of the handles and of the scopes inside. -/
def Sound (s : Session) : Prop := s.store.Held s.held

/-- What an operation does to a session, and the event that it is. -/
inductive Moves (s : Session) : Option Event → Session → Prop where
  | stay : s.Moves none s
  | opened : s.Moves (some (.opened s.store.addRoot.1 none)) (s.openHandle s.store.addRoot)
  | inside {handle : Nat} {e : ScopeId} (he : s.scope? handle = some e) :
    s.Moves (some (.opened (s.store.openInside e).1 (some e))) (s.openHandle (s.store.openInside e))
  | shared {handle : Nat} {e x : ScopeId} (he : s.scope? handle = some e)
    (hx : x ∈ s.store.chain e) : s.Moves none (s.shareHandle x).2
  | dropped {handle : Nat} {e : ScopeId} (he : s.scope? handle = some e) :
    s.Moves none (s.dropHandle handle)
  | declared {handle : Nat} {e : ScopeId} {name : String} {value : Value} {m : Mutability}
    (he : s.scope? handle = some e) (hnew : s.store.binding? e name = none) :
    s.Moves (some (.declared e name value m))
      { s with store := s.store.rebind e (·.insert ⟨name, value, m⟩) }
  | assigned {handle : Nat} {e owner : ScopeId} {name : String} {value : Value} {b : Binding}
    (he : s.scope? handle = some e) (howner : s.store.resolve e name = .ok owner)
    (hb : s.store.binding? owner name = some b) (hm : b.mutability = .mutable) :
    s.Moves (some (.assigned e name value))
      { s with store := s.store.rebind owner (·.update name value) }

variable {s s' : Session} {handle : Nat} {e x : ScopeId} {event : Option Event} {h : History}

/-! ## Handles -/

/-- `held` has the scope of a handle. -/
theorem mem_held (he : s.scope? handle = some e) : e ∈ s.held := by
  rw [scope?, Option.join_eq_some_iff, ← Array.getElem?_toList] at he
  rw [held, Multiset.mem_coe, List.mem_filterMap]
  exact ⟨some e, List.mem_of_getElem? he, rfl⟩

/-- `Sound` sessions have a living scope for each handle. -/
theorem Sound.live (hs : s.Sound) (he : s.scope? handle = some e) : s.store.Live e :=
  Store.Held.live hs e (mem_held he)

/-- `addHandle` adds the scope to those that are `held`. -/
theorem held_addHandle (s : Session) (x : ScopeId) : (s.addHandle x).2.held = x ::ₘ s.held := by
  rw [held, held, addHandle, Array.toList_push, List.filterMap_append, ← Multiset.coe_add, add_comm]
  rfl

/-- `openHandle` gives the next handle to the new scope. -/
theorem scope?_openHandle (s : Session) (new : ScopeId × Store) :
    (s.openHandle new).scope? s.handles.size = some new.1 := by
  rw [scope?, openHandle, addHandle, Array.getElem?_push_size]
  rfl

/-- `dropHandle` releases the scope and empties the place of the handle. -/
theorem dropHandle_eq (he : s.scope? handle = some e) :
    s.dropHandle handle = { s with
      store := s.store.release e
      handles := s.handles.modify handle fun _ => none } := by
  rw [dropHandle, he]

/-- `dropHandle` takes the scope once from those that are `held`. -/
theorem held_dropHandle (he : s.scope? handle = some e) :
    s.held = e ::ₘ (s.dropHandle handle).held := by
  have hplace : s.handles.toList[handle]? = some (some e) := by
    rw [scope?, Option.join_eq_some_iff] at he
    rw [Array.getElem?_toList, he]
  have hmodify := Store.filterMap_modify id (fun _ => (none : Option ScopeId)) hplace
  rw [held, held, dropHandle_eq he, Array.toList_modify, ← Multiset.singleton_add, add_comm]
  exact ((add_zero _).symm.trans hmodify.symm)

/-! ## Operations are moves -/

/-- `event?` of an operation that fails is none. -/
private theorem event?_error (operation : Operation) (failure : Failure) :
    operation.event? s s' (.error failure) = none := by
  cases operation <;> rfl

/-- `Moves` is true of an operation that fails and changes nothing: it is no event. -/
private theorem moves_of_failure {operation : Operation} {failure : Failure}
    (hstep : s.step operation.step = (.error failure, s)) :
    s.Moves (operation.event? s (s.step operation.step).2 (s.step operation.step).1)
      (s.step operation.step).2 := by
  rw [hstep, event?_error]
  exact .stay

/-- `Moves` is true of an operation that answers, with the event that its answer tells. -/
private theorem moves_of_answer {operation : ScopeOperation} {answer : Answer}
    (he : s.scope? handle = some e)
    (hstep : s.step (.onScope handle operation.step) = (.ok answer, s'))
    (hmoves : s.Moves (operation.event? e s' answer) s') :
    s.Moves ((Operation.onScope handle operation).event? s
      (s.step (.onScope handle operation.step)).2 (s.step (.onScope handle operation.step)).1)
      (s.step (.onScope handle operation.step)).2 := by
  rw [hstep, Operation.event?, he]
  exact hmoves

/-- `step` through a handle is the step on the scope of the handle. -/
theorem step_onScope (he : s.scope? handle = some e) (step : ScopeStep) :
    s.step (.onScope handle step) = s.scopeStep handle e step := by
  rw [Session.step, he]

/-- `child` makes a new scope inside another one, and a handle to it. -/
theorem step_child (he : s.scope? handle = some e) :
    (s.step (.onScope handle (.child 1))).2 = s.openHandle (s.store.openInside e) := by
  rw [step_onScope he]
  rfl

/-- `Moves` is true of what only looks: it changes nothing and is no event. -/
private theorem moves_answerBinding {α : Type} {operation : ScopeOperation}
    {answer : Except BindingError α} {f : α → Answer}
    (he : s.scope? handle = some e)
    (hstep : s.scopeStep handle e operation.step = answerBinding (answer, s) f)
    (hevent : ∀ answer, operation.event? e s answer = none) :
    s.Moves ((Operation.onScope handle operation).event? s
      (s.step (.onScope handle operation.step)).2 (s.step (.onScope handle operation.step)).1)
      (s.step (.onScope handle operation.step)).2 := by
  rw [← step_onScope he] at hstep
  cases answer with
  | error failure => exact moves_of_failure hstep
  | ok a =>
    refine moves_of_answer he hstep ?_
    rw [hevent]
    exact .stay

/-- `Moves` is true of each operation. -/
theorem moves_step (hs : s.Sound) (operation : Operation) :
    s.Moves (operation.event? s (s.step operation.step).2 (s.step operation.step).1)
      (s.step operation.step).2 := by
  cases operation with
  | new =>
    have hanswer := scope?_openHandle s s.store.addRoot
    have hstep : s.step .newRoot =
      (.ok (.handle s.handles.size _), s.openHandle s.store.addRoot) := rfl
    rw [Operation.step, hstep, Operation.event?, hanswer]
    exact .opened
  | onScope handle operation =>
    cases he : s.scope? handle with
    | none =>
      have hstep : s.step (.onScope handle operation.step) = (.error (.noScope handle), s) := by
        rw [Session.step, he]
      exact moves_of_failure hstep
    | some e =>
      -- The handles that `clone`, `root` and `parent` give are for scopes of the chain of `e`.
      have hself : e ∈ s.store.chain e := Store.live_iff_mem_chain.1 (hs.live he)
      have hstep := step_onScope he operation.step
      cases operation with
      | child =>
        have hanswer := scope?_openHandle s (s.store.openInside e)
        have hchild : s.scopeStep handle e (.child 1) =
          (.ok (.handle s.handles.size _), s.openHandle (s.store.openInside e)) := rfl
        rw [ScopeOperation.step, hchild] at hstep
        refine moves_of_answer he hstep ?_
        rw [ScopeOperation.event?, hanswer]
        exact .inside he
      | clone => exact moves_of_answer he hstep (.shared he hself)
      | root => exact moves_of_answer he hstep (.shared he (Store.root_mem_chain (hs.live he)))
      | parent =>
        rw [ScopeOperation.step, scopeStep] at hstep
        cases hp : s.store.parent? e with
        | none =>
          rw [hp] at hstep
          exact moves_of_answer he hstep .stay
        | some p =>
          rw [hp] at hstep
          have hparent : p ∈ s.store.chain e := List.mem_of_mem_tail (List.mem_of_mem_head? hp)
          exact moves_of_answer he hstep (.shared he hparent)
      | drop => exact moves_of_answer he hstep (.dropped he)
      | declare name value m =>
        have hdeclare : s.scopeStep handle e (.declare name (.value value) m) =
          answerBinding (s.declare e name value m) .value := rfl
        rw [ScopeOperation.step, hdeclare, Session.declare] at hstep
        rcases s.store.declare_cases e name value m with ⟨b, -, heq⟩ | ⟨hnew, heq⟩
        · rw [heq] at hstep
          exact moves_of_failure hstep
        · rw [heq] at hstep
          exact moves_of_answer he hstep (.declared he hnew)
      | assign name value =>
        have hassign : s.scopeStep handle e (.assign name (.value value)) =
          answerBinding (s.assign e name value) .value := rfl
        rw [ScopeOperation.step, hassign, Session.assign] at hstep
        rcases s.store.assign_cases e name value with ⟨failure, heq⟩ | ⟨owner, b, howner, hb, hm, heq⟩
        · rw [heq] at hstep
          exact moves_of_failure hstep
        · rw [heq] at hstep
          exact moves_of_answer he hstep (.assigned he howner hb hm)
      | lookup name => exact moves_answerBinding he rfl fun _ => rfl
      | resolve name => exact moves_answerBinding he rfl fun _ => rfl
      | isConstant name => exact moves_answerBinding he rfl fun _ => rfl

/-! ## What moves preserve -/

/-- `Moves` leaves the store what the history tells, with the event that the move is. -/
theorem Moves.agrees (hm : s.Moves event s') (hs : s.Sound) (ha : s.store.Agrees h) :
    s'.store.Agrees (event.toList ++ h) := by
  cases hm with
  | stay => exact ha
  | opened =>
    refine ha.opened rfl ?_ rfl
    exact fun p hp => nomatch hp
  | @inside handle e he =>
    have hlive : ((s.store.retain e).retain e).Live e :=
      Store.live_retain.2 (Store.live_retain.2 (hs.live he))
    -- The outer scope is held twice meanwhile: by the operation, and by the scope inside it.
    have hretained := (ha.within (Store.within_retain s.store e)).within
      (Store.within_retain (s.store.retain e) e)
    have hopened : (s.store.retain e).addChild e |>.2.Agrees
        (.opened ((s.store.retain e).addChild e).1 (some e) :: h) := by
      refine hretained.opened rfl ?_ ?_
      · intro p hp
        cases hp
        exact hlive
      · exact (Store.chain_retain (s.store.retain e) e e).symm
    exact hopened.within (Store.within_release _ e)
  -- Holding and releasing are no events, and the others are one each.
  | shared he hx => exact ha.within (Store.within_retain _ _)
  | @dropped handle e he =>
    rw [dropHandle_eq he]
    exact ha.within (Store.within_release _ e)
  | declared he hnew => exact ha.declared (hs.live he) hnew
  | assigned he howner hb hm => exact ha.assigned hs (hs.live he) howner

/-- `Moves` gives a handle to a scope that is opened. -/
theorem Moves.exists_handle {outer : Option ScopeId} (hm : s.Moves (some (.opened x outer)) s') :
    ∃ handle, s'.scope? handle = some x := by
  cases hm with
  | opened => exact ⟨s.handles.size, scope?_openHandle s s.store.addRoot⟩
  | @inside handle e he => exact ⟨s.handles.size, scope?_openHandle s (s.store.openInside e)⟩

end Session

end ScriptCore
