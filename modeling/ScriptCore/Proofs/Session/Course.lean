import ScriptCore.Proofs.Session.Global
import ScriptCore.Proofs.Session.Operation
import ScriptCore.Proofs.Session.Write

/-!
# The course of a session

A session goes on step by step, and `run` takes many steps.  `Follows` says what any number of steps
can have done: the scopes have come through the changes of `Change`, native functions are what they
were, and so are the handles that were not dropped.

* `follows_step`: each step does no more than that, also one that fails;
* `follows_run`: neither does a run;
* `sound_run`: after any steps from the start the holds on the scopes are those of the handles;
* `develops_run`: later steps leave what is there as it was, except for values of mutable bindings.
-/

namespace ScriptCore

/-- The handles that a step drops. -/
def Step.dropped : Step → List Nat
  | .onScope handle .drop => [handle]
  | _ => []

/-- `Operation.step` drops no handle but the one that it is told to drop. -/
theorem Operation.notMem_dropped (operation : Operation) {handle : Nat}
    (hkeep : operation ≠ .onScope handle .drop) : handle ∉ operation.step.dropped := by
  cases operation with
  | new => exact List.not_mem_nil
  | onScope other operation =>
    cases operation with
    | drop =>
      intro hmem
      cases List.mem_singleton.1 hmem
      exact hkeep rfl
    | child | clone | parent | root | declare | assign | lookup | resolve | isConstant =>
      exact List.not_mem_nil

/-- `withConstants` is a number of changes, if the scope has none of the names. -/
theorem Store.reaches_withConstants {s : Store} {id : ScopeId} {constants : List (String × Value)}
    (h : s.Admits id constants) (handles : Multiset ScopeId) :
    Reaches (s, handles) (s.withConstants id constants, handles) := by
  induction constants generalizing s with
  | nil => exact .refl
  | cons constant rest ih =>
    exact .head (.declared (h.unbound _ List.mem_cons_self)) (ih h.tail)

namespace Session

/-- Takes steps, one after the other. -/
def run (s : Session) (steps : List Step) : Session := steps.foldl (fun s step => (s.step step).2) s

/-- `run` takes the first step and then the others. -/
theorem run_cons (s : Session) (step : Step) (rest : List Step) :
    s.run (step :: rest) = (s.step step).2.run rest := rfl

/-- What steps can do to a session, apart from the handles that they drop. -/
structure Follows (dropped : List Nat) (s s' : Session) : Prop where
  reaches : Reaches (s.store, s.held) (s'.store, s'.held)
  native_of_native : ∀ {i : Nat} {body : NativeBody}, s.natives[i]? = some body →
    s'.natives[i]? = some body
  scope?_of_scope? : ∀ {handle : Nat} {e : ScopeId}, s.scope? handle = some e →
    handle ∉ dropped → s'.scope? handle = some e

variable {s s' s'' : Session} {handle : Nat} {e x : ScopeId} {dropped dropped' : List Nat}

/-- `Follows` holds between a session and itself. -/
theorem Follows.refl (s : Session) : Follows dropped s s := ⟨.refl, fun h => h, fun h _ => h⟩

/-- `Follows` goes on from session to session, with the handles that both drop. -/
theorem Follows.trans (h : Follows dropped s s') (h' : Follows dropped' s' s'') :
    Follows (dropped ++ dropped') s s'' := by
  refine ⟨h.reaches.trans h'.reaches, fun hbody => h'.native_of_native (h.native_of_native hbody),
    fun he hkept => ?_⟩
  rw [List.mem_append, not_or] at hkept
  exact h'.scope?_of_scope? (h.scope?_of_scope? he hkept.1) hkept.2

/-- `Writes` drops no handle. -/
theorem Writes.follows (h : s.Writes s') : Follows [] s s' := by
  have hheld : s'.held = s.held := by rw [held, held, h.handles_eq]
  refine ⟨hheld ▸ h.reaches s.held, h.native_of_native, fun he _ => ?_⟩
  rw [scope?, h.handles_eq]
  exact he

/-! ## Handles that come and go -/

/-- `addHandle` gives a handle to a scope that a hold was taken on. -/
theorem follows_addHandle {store : Store}
    (h : Reaches (s.store, s.held) (store, x ::ₘ s.held)) :
    Follows [] s ({ s with store }.addHandle x).2 := by
  refine ⟨?_, fun hbody => hbody, fun {handle e} he _ => ?_⟩
  · rw [held_addHandle]
    exact h
  · rw [scope?, Option.join_eq_some_iff] at he ⊢
    -- A new handle has a new number.
    obtain ⟨hlt, -⟩ := Array.getElem?_eq_some_iff.1 he
    have hne : handle ≠ s.handles.size := by omega
    rw [addHandle, Array.getElem?_push, if_neg hne, he]

/-- `shareHandle` gives another handle to the scope of a handle or to one around it. -/
theorem follows_shareHandle (he : s.scope? handle = some e) (hx : x = e ∨ x ∈ s.store.chain e) :
    Follows [] s (s.shareHandle x).2 :=
  follows_addHandle (.single (.retained (mem_held he) hx))

/-- `dropHandle` drops the one handle. -/
theorem follows_dropHandle (he : s.scope? handle = some e) :
    Follows [handle] s (s.dropHandle handle) := by
  have hheld := held_dropHandle he
  rw [dropHandle_eq he] at hheld ⊢
  -- The other handles are in other places.
  refine ⟨?_, fun hbody => hbody, fun {other x} hx hkept => ?_⟩
  · rw [hheld]
    exact .single .released
  · rw [List.mem_singleton] at hkept
    rw [scope?, Array.getElem?_modify, if_neg (Ne.symm hkept)]
    exact hx

/-! ## Nested scopes -/

/-- `nest` makes scopes one by one; each is left as soon as there is one inside it. -/
theorem reaches_nest {work : Store → ScopeId → Store}
    (hwork : ∀ store id handles, Reaches (store, handles) (work store id, handles))
    (count : Nat) (store : Store) (scope : ScopeId) (handles : Multiset ScopeId) :
    Reaches (store, scope ::ₘ handles)
      ((nest work count store scope).2, (nest work count store scope).1 ::ₘ handles) := by
  induction count generalizing store scope with
  | zero => exact .refl
  | succ count ih =>
    rw [nest]
    dsimp only
    generalize hadded : store.addChild scope = added
    obtain ⟨inner, after⟩ := added
    have hopened : Reaches (store, scope ::ₘ handles) (after, inner ::ₘ scope ::ₘ handles) := by
      have hinside := @Change.inside store _ scope (Multiset.mem_cons_self scope handles)
      rw [hadded] at hinside
      exact .single hinside
    -- The hold that is given up is the one on the outer scope.
    rw [Multiset.cons_swap] at hopened
    have hworked := hwork after inner (scope ::ₘ inner ::ₘ handles)
    exact (hopened.trans hworked).trans (.head .released (ih _ inner))

/-- `declareDepth` declares one name in the scope. -/
theorem reaches_declareDepth (name : String) (m : Mutability) (store : Store) (id : ScopeId)
    (handles : Multiset ScopeId) :
    Reaches (store, handles) (declareDepth name m store id, handles) :=
  store.reaches_declare handles id name _ m

/-- `nestHandle` gives a handle to the innermost of the scopes that are made. -/
theorem follows_nestHandle {work : Store → ScopeId → Store}
    (hwork : ∀ store id handles, Reaches (store, handles) (work store id, handles))
    (he : s.scope? handle = some e) (count : Nat) :
    Follows [] s (s.nestHandle e count work).2 := by
  refine follows_addHandle (.head (.retained (mem_held he) (.inl rfl)) ?_)
  exact reaches_nest hwork count (s.store.retain e) e s.held

/-! ## Global scopes -/

/-- A session with an outermost scope that has the literals and the catalogue, and a handle to it.
The functions of the catalogue are not made yet. -/
def openConstants (s : Session) : Session :=
  ({ s with store :=
      s.store.addRoot.2.withConstants s.store.addRoot.1 (globals s.natives.size) }.addHandle
    s.store.addRoot.1).2

/-- `openConstants` makes no functions. -/
theorem natives_openConstants (s : Session) : s.openConstants.natives = s.natives := by
  unfold openConstants addHandle
  dsimp only

/-- A session with one more global scope, which prints to a new sink, and a handle to it. -/
def openGlobal (s : Session) (sink : Sink) : Session :=
  { s.openConstants with
    natives := s.openConstants.natives ++
      Builtin.catalogue.map fun builtin => bodyOf (s.output.add sink).1 builtin.behaviour
    output := (s.output.add sink).2 }

/-- `newGlobal` never fails. -/
theorem step_newGlobal (s : Session) (sink : Sink) :
    s.step (.newGlobal sink) = (.ok (.handle s.handles.size 1), s.openGlobal sink) := by
  have hdepth : (s.openGlobal sink).store.depth s.store.addRoot.1 = 1 := by
    show ((s.store.addRoot.2.withConstants _ _).chain _).length = 1
    rw [Store.chain_withConstants, Store.chain_of_get? s.store.get?_addRoot]
    rfl
  rw [step]
  dsimp only
  rw [addGlobal_eq, ← hdepth]
  rfl

/-- `Writes` is true of new native functions, which leave those that are there. -/
theorem writes_natives (s : Session) (bodies : List NativeBody) (output : Output) :
    s.Writes { s with natives := s.natives ++ bodies, output } := by
  refine ⟨rfl, fun {i body} hbody => ?_, fun _ => .refl⟩
  obtain ⟨hlt, -⟩ := Array.getElem?_eq_some_iff.1 hbody
  rw [← Array.getElem?_toList] at hbody ⊢
  rw [Array.toList_appendList, List.getElem?_append_left (by simpa using hlt), hbody]

/-- `openGlobal` makes an outermost scope and declares constants in it. -/
theorem follows_openGlobal (s : Session) (sink : Sink) : Follows [] s (s.openGlobal sink) := by
  have hopened : Follows [] s s.openConstants :=
    follows_addHandle (.head .opened (Store.reaches_withConstants s.admits_globals _))
  exact hopened.trans (s.openConstants.writes_natives _ _).follows

/-! ## Steps -/

/-- `scopeStep` does no more than `Follows` says, for each kind of step. -/
theorem follows_scopeStep (he : s.scope? handle = some e) (step : ScopeStep) :
    Follows (Step.onScope handle step).dropped s (s.scopeStep handle e step).2 := by
  cases step with
  | drop => exact follows_dropHandle he
  | child count => exact follows_nestHandle (fun _ _ _ => .refl) he count
  | tower name count m => exact follows_nestHandle (reaches_declareDepth name m) he count
  | clone => exact follows_shareHandle he (.inl rfl)
  | root =>
    refine follows_shareHandle he ?_
    rw [Store.root]
    cases hlast : (s.store.chain e).getLast? with
    | none => exact .inl rfl
    | some root => exact .inr (List.mem_of_getLast? hlast)
  | parent =>
    rw [scopeStep]
    cases hp : s.store.parent? e with
    | none => exact .refl s
    | some p => exact follows_shareHandle he (.inr (List.mem_of_mem_tail (List.mem_of_mem_head? hp)))
  | same | depth | localSize | inspect | hasLocal | isConstant | resolve | lookup | bindings =>
    exact .refl s
  | declare name value m =>
    -- The calls in the value come first, and what they write stays even if declaring fails.
    have heval := writes_eval e value s
    rw [scopeStep]
    generalize s.eval e value = outcome at heval ⊢
    obtain ⟨answer, after⟩ := outcome
    cases answer with
    | error _ => exact heval.follows
    | ok v => exact (heval.trans (after.writes_declare e name v m)).follows
  | assign name value =>
    have heval := writes_eval e value s
    rw [scopeStep]
    generalize s.eval e value = outcome at heval ⊢
    obtain ⟨answer, after⟩ := outcome
    cases answer with
    | error _ => exact heval.follows
    | ok v => exact (heval.trans (after.writes_assign e name v)).follows
  | display value => exact (writes_eval e value s).follows
  | equals a b =>
    have hboth := writes_evalAll e [a, b] s
    rw [scopeStep]
    generalize s.evalAll e [a, b] = answer at hboth ⊢
    split <;> exact hboth.follows
  -- The name is looked up first, then the arguments are computed, and then the call is made.
  | call name arguments caller =>
    rw [scopeStep]
    cases hcallee : s.store.lookup e name with
    | error _ => exact .refl s
    | ok callee =>
      have harguments := writes_evalAll e arguments s
      dsimp only
      generalize s.evalAll e arguments = outcome at harguments ⊢
      obtain ⟨answer, after⟩ := outcome
      cases answer with
      | error _ => exact harguments.follows
      | ok values =>
        dsimp only
        cases after.scopeOr caller e with
        | error _ => exact harguments.follows
        | ok caller => exact (harguments.trans (after.writes_apply callee values caller)).follows

/-- `step` does no more than `Follows` says. -/
theorem follows_step (s : Session) (step : Step) : Follows step.dropped s (s.step step).2 := by
  cases step with
  | newRoot => exact follows_addHandle (.single .opened)
  | newGlobal sink =>
    rw [step_newGlobal]
    exact s.follows_openGlobal sink
  | onScope handle step =>
    rw [Session.step]
    cases he : s.scope? handle with
    | none => exact .refl s
    | some e => exact follows_scopeStep he step
  | onSink sink step => exact (s.writes_output _ s.chance).follows

/-! ## Runs -/

/-- `run` does no more than `Follows` says. -/
theorem follows_run (s : Session) (steps : List Step) :
    Follows (steps.flatMap Step.dropped) s (s.run steps) := by
  induction steps generalizing s with
  | nil => exact .refl s
  | cons step rest ih => exact (s.follows_step step).trans (ih (s.step step).2)

/-- `Follows` keeps the holds right. -/
theorem Follows.sound (h : Follows dropped s s') (hs : s.Sound) : s'.Sound := h.reaches.held hs

/-- `start` has no scopes and no handles. -/
theorem sound_start (clock : Nat) (seed : UInt64) : (start clock seed).Sound := Store.held_empty

/-- `run` from the start leaves on the scopes the holds of the handles. -/
theorem sound_run (clock : Nat) (seed : UInt64) (steps : List Step) :
    ((start clock seed).run steps).Sound :=
  (follows_run (start clock seed) steps).sound (sound_start clock seed)

/-- `run` leaves what is there as it was, except for values of mutable bindings. -/
theorem develops_run (s : Session) (steps : List Step) : s.store.Develops (s.run steps).store :=
  (s.follows_run steps).reaches.develops

/-- `run` keeps the scope of a handle that is not dropped. -/
theorem live_run (hs : s.Sound) (he : s.scope? handle = some e) {steps : List Step}
    (hkept : handle ∉ steps.flatMap Step.dropped) : (s.run steps).store.Live e := by
  have hfollows := s.follows_run steps
  exact (hfollows.sound hs).live (hfollows.scope?_of_scope? he hkept)

end Session

end ScriptCore
