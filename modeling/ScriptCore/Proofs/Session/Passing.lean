import ScriptCore.Proofs.Session.Block

/-!
# Steps that pass values

Of the operations on scopes, declaring and assigning take a value and bind it, and looking a name up
answers the value that is bound.  All three answer the value that they pass, and then it is bound to
the name in one scope; the other bindings are as before.  The operations that pass no value leave
nothing bound that was not bound before.

* `Moves.binding?_of_binding?`: what an operation leaves bound that passes no value;
* `Passes`, `passes_declare`, `passes_assign`, `passes_lookup`: what one does that passes a value.
-/

namespace ScriptCore

/-- The operation takes or answers a value. -/
def ScopeOperation.passesValue : ScopeOperation → Bool
  | declare .. | assign .. | lookup _ => true
  | child | clone | parent | root | drop | resolve _ | isConstant _ => false

/-- The operation takes or answers a value. -/
def Operation.passesValue : Operation → Bool
  | new => false
  | onScope _ operation => operation.passesValue

/-- The scope that a name resolves to, from the scope of a handle. -/
def Session.owner? (s : Session) (handle : Nat) (name : String) : Option ScopeId :=
  (s.scope? handle).bind fun scope => (s.store.resolve scope name).toOption

/-- `lookup` gives the same value from wherever a name resolves to one scope. -/
theorem Store.lookup_congr_owner {s : Store} {x y owner : ScopeId} {name : String}
    (hx : s.resolve x name = .ok owner) (hy : s.resolve y name = .ok owner) :
    s.lookup x name = s.lookup y name := by
  obtain ⟨b, hb⟩ := exists_binding_of_resolve hx
  rw [lookup_of_resolve hx hb, lookup_of_resolve hy hb]

/-! ## Nothing is passed -/

/-- `addRoot` binds nothing, so what is bound afterwards was bound before. -/
theorem Store.binding?_of_addRoot {s : Store} {x : ScopeId} {name : String} {b : Binding}
    (hb : s.addRoot.2.binding? x name = some b) : s.binding? x name = some b := by
  have hne : x ≠ s.addRoot.1 := by
    intro heq
    rw [heq, binding?_addRoot] at hb
    cases hb
  have hget : s.addRoot.2.get? x = s.get? x := by
    rw [addRoot, get?_add]
    exact if_neg hne
  rw [binding?, bindings, hget] at hb
  exact hb

/-- `openInside` binds nothing, so what is bound afterwards was bound before. -/
theorem Store.binding?_of_openInside {s : Store} {x y : ScopeId} {name : String} {b : Binding}
    (hb : (s.openInside y).2.binding? x name = some b) : s.binding? x name = some b := by
  rcases openInside_cases (live_of_binding? hb) with ⟨-, -, hempty⟩ | ⟨-, -, hbindings⟩
  · rw [binding?, hempty] at hb
    cases hb
  · rw [binding?, hbindings] at hb
    exact hb

namespace Session

variable {s s' : Session} {x : ScopeId} {name : String} {event : Option Event}

/-- `event?` of an operation that passes no value declares nothing and assigns nothing. -/
theorem event?_of_passesValue {operation : Operation} (h : operation.passesValue = false)
    (answer : Except Failure Answer) (value : Value) (m : Mutability) :
    operation.event? s s' answer ≠ some (.declared x name value m) ∧
      operation.event? s s' answer ≠ some (.assigned x name value) := by
  cases answer with
  | error failure => cases operation <;> simp [Operation.event?]
  | ok answer =>
    cases operation with
    | new => cases answer <;> simp [Operation.event?]
    | onScope handle operation =>
      cases operation with
      | declare | assign | lookup => cases h
      | child =>
        cases answer <;>
          simp [Operation.event?, ScopeOperation.event?, Option.bind_eq_some_iff]
      | clone | parent | root | drop | resolve | isConstant =>
        simp [Operation.event?, ScopeOperation.event?]

/-- `Moves` that declare nothing and assign nothing bind nothing. -/
theorem Moves.binding?_of_binding? (hm : s.Moves event s')
    (hevent : ∀ x name value m, event ≠ some (.declared x name value m) ∧
      event ≠ some (.assigned x name value)) {b : Binding}
    (hb : s'.store.binding? x name = some b) : s.store.binding? x name = some b := by
  -- Releasing and holding leaves the bindings of what is still there.
  have hwithin {store : Store} (hw : store.Within s.store)
      (hb : store.binding? x name = some b) : s.store.binding? x name = some b :=
    (hw.binding?_eq (Store.live_of_binding? hb) name).symm.trans hb
  cases hm with
  | stay => exact hb
  | opened => exact Store.binding?_of_addRoot hb
  | inside => exact Store.binding?_of_openInside hb
  | shared => exact hwithin (Store.within_retain _ _) hb
  | dropped => exact hwithin (within_dropHandle s _) hb
  | declared => exact absurd rfl (hevent _ _ _ _).1
  | assigned => exact absurd rfl (hevent _ _ _ .mutable).2

/-- `Moves` make no native functions. -/
theorem Moves.natives_eq (hm : s.Moves event s') : s'.natives = s.natives := by
  cases hm with
  | dropped he => rw [dropHandle_eq he]
  | stay | opened | inside | shared | declared | assigned => rfl

/-! ## A value is passed -/

/-- A step that passes a value: it fails and changes nothing, or it answers the value, which is then
what a scope binds to the name, and changes no other binding. -/
inductive Passes (s : Session) (scope? : Option ScopeId) (name : String) (P : Value → Prop) :
    Except Failure Answer × Session → Prop where
  | failed {failure : Failure} : Passes s scope? name P (.error failure, s)
  | passed {scope : ScopeId} {value : Value} {store : Store} (hscope : scope? = some scope)
    (hvalue : P value)
    (hbinding : ∀ {x n b}, store.binding? x n = some b →
      if x = scope ∧ n = name then b.value = value else s.store.binding? x n = some b) :
    Passes s scope? name P (.ok (.value value), { s with store })

/-- `Passes` is true of a step through a handle if it is true of the step on the scope of the
handle: without a scope it fails. -/
theorem passes_onScope {handle : Nat} {step : ScopeStep} {scope? : Option ScopeId} {P : Value → Prop}
    (h : ∀ e, s.scope? handle = some e → s.Passes scope? name P (s.scopeStep handle e step)) :
    s.Passes scope? name P (s.step (.onScope handle step)) := by
  cases he : s.scope? handle with
  | none =>
    rw [Session.step, he]
    exact .failed
  | some e =>
    rw [step_onScope he]
    exact h e he

/-- `Passes` is true of a declaration, which binds the value in the scope of the handle. -/
theorem passes_declare (hs : s.Sound) (handle : Nat) (name : String) (value : Value)
    (m : Mutability) : s.Passes (s.scope? handle) name (· = value)
      (s.step (.onScope handle (.declare name (.value value) m))) := by
  apply passes_onScope
  intro e he
  show s.Passes _ name _ (answerBinding (s.declare e name value m) .value)
  rw [Session.declare]
  rcases s.store.declare_cases e name value m with ⟨b, -, heq⟩ | ⟨hnew, heq⟩
  · rw [heq]
    exact .failed
  · rw [heq]
    -- The binding is the one that was declared, or it was there before.
    refine .passed he rfl fun {x n b} hb => ?_
    rw [Store.binding?_rebind_insert (hs.live he) hnew] at hb
    split at hb
    next hboth =>
      cases hb
      rw [if_pos hboth]
    next hother =>
      rw [if_neg hother]
      exact hb

/-- `owner?` is what the name resolves to from the scope of the handle. -/
theorem owner?_eq {handle : Nat} {e owner : ScopeId} (he : s.scope? handle = some e)
    (howner : s.store.resolve e name = .ok owner) : s.owner? handle name = some owner := by
  rw [owner?, he, Option.bind_some, howner]
  rfl

/-- `Passes` is true of an assignment, which gives the value to the binding in the owner of the
name. -/
theorem passes_assign (s : Session) (handle : Nat) (name : String) (value : Value) :
    s.Passes (s.owner? handle name) name (· = value)
      (s.step (.onScope handle (.assign name (.value value)))) := by
  apply passes_onScope
  intro e he
  show s.Passes _ name _ (answerBinding (s.assign e name value) .value)
  rw [Session.assign]
  rcases s.store.assign_cases e name value with ⟨failure, heq⟩ | ⟨owner, b, howner, hb, -, heq⟩
  · rw [heq]
    exact .failed
  · rw [heq]
    -- The binding that is updated has the value, and the others are as before.
    refine .passed (owner?_eq he howner) rfl fun {x n b'} hb' => ?_
    rw [Store.binding?_rebind_update (Store.live_of_binding? hb)] at hb'
    split at hb'
    next hboth =>
      obtain ⟨before, -, rfl⟩ := Option.map_eq_some_iff.1 hb'
      rw [if_pos hboth]
    next hother =>
      rw [if_neg hother]
      exact hb'

/-- `Passes` is true of a lookup: it answers what is bound to the name in its owner, and leaves it
bound there. -/
theorem passes_lookup (s : Session) (handle : Nat) (name : String) :
    s.Passes (s.owner? handle name) name
      (fun value => ∃ owner b, s.owner? handle name = some owner ∧
        s.store.binding? owner name = some b ∧ b.value = value)
      (s.step (.onScope handle (.lookup name))) := by
  apply passes_onScope
  intro e he
  show s.Passes _ name _ (answerBinding (s.store.lookup e name, s) .value)
  cases howner : s.store.resolve e name with
  | error failure =>
    rw [Store.lookup, Store.lookupBinding_of_unresolved howner]
    exact .failed
  | ok owner =>
    obtain ⟨b, hb⟩ := Store.exists_binding_of_resolve howner
    have howner? := owner?_eq he howner
    rw [Store.lookup_of_resolve howner hb]
    refine .passed howner? ⟨owner, b, howner?, hb, rfl⟩ fun {x n b'} hb' => ?_
    split
    next hboth =>
      obtain ⟨rfl, rfl⟩ := hboth
      cases hb.symm.trans hb'
      rfl
    next => exact hb'

end Session

end ScriptCore
