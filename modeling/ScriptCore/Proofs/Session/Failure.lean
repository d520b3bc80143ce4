import ScriptCore.Proofs.Scope.Owner
import ScriptCore.Proofs.Session.Permanence

/-!
# Operations that fail

Which operations on a name fail is decided by the scopes that declare the name, from the scope of the
operation outwards, and by whether the innermost one of them has it as a constant.  An operation that
fails leaves the session as it was: all scopes keep their bindings, their constants and the scopes
around them.

* `fails_step`: an operation through a handle fails exactly if the scope of the handle refuses it;
* `failures_of_reachable`: so it is in every reachable session.
-/

namespace ScriptCore

/-- A scope refuses an operation, with an error.  What only makes and drops handles it never
refuses. -/
def Store.Refuses (s : Store) (x : ScopeId) : ScopeOperation → BindingError → Prop
  | .declare name _ _, e => s.hasLocal x name = true ∧ e = .duplicate name
  | .assign name _, e => (s.Unknown x name ∧ e = .unresolved name) ∨
    ((∃ owner, s.Owns x name owner ∧ name ∈ s.constants owner) ∧ e = .immutable name)
  | .lookup name, e | .resolve name, e | .isConstant name, e =>
    s.Unknown x name ∧ e = .unresolved name
  | .child, _ | .clone, _ | .parent, _ | .root, _ | .drop, _ => False

namespace Session

/-- A step that fails with the errors of `refuses` and with no others, and then changes nothing. -/
structure Fails (s : Session) (refuses : BindingError → Prop)
    (outcome : Except Failure Answer × Session) : Prop where
  eq_error_iff : ∀ {failure}, outcome.1 = .error failure ↔
    ∃ e, refuses e ∧ failure = .binding e
  unchanged : ∀ {failure}, outcome.1 = .error failure → outcome.2 = s

variable {s : Session} {refuses : BindingError → Prop}

/-- `Fails` is true, with no errors, of a step that answers. -/
theorem fails_of_ok {outcome : Except Failure Answer × Session} {answer : Answer}
    (h : outcome.1 = .ok answer) : s.Fails (fun _ => False) outcome where
  eq_error_iff := by simp [h]
  unchanged := by simp [h]

/-- `answerBinding` fails in the session as the operation fails in the store, with the same error.
-/
theorem fails_answerBinding {α : Type} (outcome : Except BindingError α × Session)
    (f : α → Answer) (herror : ∀ {e}, outcome.1 = .error e ↔ refuses e)
    (hunchanged : ∀ {e}, outcome.1 = .error e → outcome.2 = s) :
    s.Fails refuses (answerBinding outcome f) := by
  obtain ⟨answer, after⟩ := outcome
  cases answer with
  | ok a =>
    have hnever (e : BindingError) : ¬ refuses e := fun he => nomatch herror.2 he
    exact ⟨by simp [answerBinding, Except.map, Except.mapError, hnever],
      by simp [answerBinding, Except.map, Except.mapError]⟩
  | error e =>
    have honly (e' : BindingError) : refuses e' ↔ e = e' := by
      rw [← herror, Except.error.injEq]
    exact ⟨by simp [answerBinding, Except.map, Except.mapError, honly, eq_comm],
      fun _ => hunchanged rfl⟩

/-- `Fails` is true of what only looks, since that changes nothing in any case. -/
theorem fails_look {α : Type} {answer : Except BindingError α} (f : α → Answer)
    (herror : ∀ {e}, answer = .error e ↔ refuses e) :
    s.Fails refuses (answerBinding (answer, s) f) :=
  fails_answerBinding (answer, s) f herror fun _ => rfl

/-- `fails_step`: an operation through a handle fails exactly if the scope of the handle refuses it.
-/
theorem fails_step (hs : s.Sound) {handle : Nat} {x : ScopeId} (hx : s.scope? handle = some x)
    (operation : ScopeOperation) :
    s.Fails (s.store.Refuses x operation) (s.step (.onScope handle operation.step)) := by
  have hanswers (name : String) : s.store.Answers x name := Store.Held.answers hs (hs.live hx) name
  rw [step_onScope hx]
  cases operation with
  -- Making and dropping handles never fails.
  | child => exact fails_of_ok rfl
  | clone => exact fails_of_ok rfl
  | root => exact fails_of_ok rfl
  | drop => exact fails_of_ok rfl
  | parent =>
    rw [ScopeOperation.step, scopeStep]
    cases s.store.parent? x with
    | none => exact fails_of_ok rfl
    | some p => exact fails_of_ok rfl
  -- The other operations fail as the name is told in the store.
  | declare name value m =>
    refine fails_answerBinding (s.declare x name value m) .value
      (hanswers name).declare_eq_error_iff fun herror => ?_
    show { s with store := (s.store.declare x name value m).2 } = s
    rw [(hanswers name).declare_unchanged herror]
  | assign name value =>
    refine fails_answerBinding (s.assign x name value) .value
      (hanswers name).assign_eq_error_iff fun herror => ?_
    show { s with store := (s.store.assign x name value).2 } = s
    rw [(hanswers name).assign_unchanged herror]
  | lookup name => exact fails_look .value (hanswers name).lookup_eq_error_iff
  | resolve name => exact fails_look _ (hanswers name).resolve_eq_error_iff
  | isConstant name => exact fails_look .flag (hanswers name).isConstant_eq_error_iff

/-- `step` leaves the session unchanged if it fails. -/
theorem step_of_failure (hs : s.Sound) (operation : Operation) {failure : Failure}
    (hfails : (s.step operation.step).1 = .error failure) : (s.step operation.step).2 = s := by
  cases operation with
  | new => cases hfails
  | onScope handle operation =>
    cases hx : s.scope? handle with
    | none =>
      show (s.step (.onScope handle operation.step)).2 = s
      rw [Session.step, hx]
    | some x => exact (fails_step hs hx operation).unchanged hfails

/-- In a reachable session the owner of a name decides what the operations on it answer, through
handles as well, and whatever operation fails leaves the session unchanged. -/
theorem failures_of_reachable (hs : s.Reachable) :
    (∀ x, s.store.Live x → ∀ name, s.store.Answers x name) ∧
    (∀ handle x, s.scope? handle = some x → ∀ operation,
      s.Fails (s.store.Refuses x operation) (s.step (.onScope handle operation.step))) ∧
    ∀ (operation : Operation) failure, (s.step operation.step).1 = .error failure →
      (s.step operation.step).2 = s :=
  ⟨fun _ hx name => Store.Held.answers hs.sound hx name,
    fun _ _ hx operation => fails_step hs.sound hx operation,
    fun operation _ hfails => step_of_failure hs.sound operation hfails⟩

/-- An inner constant keeps an outer mutable binding of the same name from being assigned to, and
from nothing else: the name can still be declared further inside. -/
theorem failures_of_reachable_shadowed :
    let s := (start 0 0).run [.newRoot, .onScope 0 (.declare "x" (.value .null) .mutable),
      .onScope 0 (.child 1), .onScope 1 (.declare "x" (.value .null) .constant),
      .onScope 1 (.child 1)]
    let assign : Operation := .onScope 2 (.assign "x" (.boolean true))
    (s.store.assign ⟨2⟩ "x" (.boolean true)).1 = .error (.immutable "x") ∧
      (s.store.assign ⟨0⟩ "x" (.boolean true)).1 = .ok (.boolean true) ∧
      (s.store.declare ⟨2⟩ "x" .null .mutable).1 = .ok .null ∧
      (s.store.declare ⟨1⟩ "x" .null .mutable).1 = .error (.duplicate "x") ∧
      (s.step assign.step).1 = .error (.binding (.immutable "x")) ∧
      (s.step assign.step).2 = s := by
  intro s assign
  have hs : s.Reachable := ⟨0, 0, _, rfl⟩
  obtain ⟨hanswers, hfails, hunchanged⟩ := failures_of_reachable hs
  have inner := hanswers ⟨2⟩ (by decide) "x"
  have middle := hanswers ⟨1⟩ (by decide) "x"
  have outer := hanswers ⟨0⟩ (by decide) "x"
  have hinner : s.store.Owns ⟨2⟩ "x" ⟨1⟩ := inner.resolve_eq_ok_iff.1 (by decide)
  have houter : s.store.Owns ⟨0⟩ "x" ⟨0⟩ := outer.resolve_eq_ok_iff.1 (by decide)
  have hconstant : "x" ∈ s.store.constants ⟨1⟩ := by decide
  have hmutable : "x" ∉ s.store.constants ⟨0⟩ := by decide
  have himmutable : (s.step assign.step).1 = .error (.binding (.immutable "x")) :=
    (hfails 2 ⟨2⟩ (by decide) _).eq_error_iff.2
      ⟨_, .inr ⟨⟨⟨1⟩, hinner, hconstant⟩, rfl⟩, rfl⟩
  exact ⟨inner.assign_eq_error_iff.2 (.inr ⟨⟨⟨1⟩, hinner, hconstant⟩, rfl⟩),
    outer.assign_eq_ok_iff.2 ⟨⟨⟨0⟩, houter, hmutable⟩, rfl⟩,
    inner.declare_eq_ok_iff.2 ⟨by decide, rfl⟩,
    middle.declare_eq_error_iff.2 ⟨by decide, rfl⟩,
    himmutable, hunchanged assign _ himmutable⟩

end Session

end ScriptCore
