import Mathlib.Data.List.Find
import ScriptCore.Proofs.Scope.Hold

/-!
# Names by history

What a name stands for can be told without any store, from what has happened: which scopes were
opened inside which, what was declared, and what was assigned from where.  `History` is the list of
these events, the latest first, and its functions answer from it.

A store `Agrees` with a history if its chains are those of the scopes as they were opened, and every
binding has the mutability it was declared with and the value that was written last.  Each event
keeps the agreement:

* `Agrees.opened`, `Agrees.declared`, `Agrees.assigned`: one event in the history and its change in
  the store;
* `Agrees.within`: releasing and holding scopes is no event;
* `Agrees.cases`: what the store answers about a name is what the history tells.
-/

namespace ScriptCore

/-- What happens to scopes and names. -/
inductive Event where
  /-- A scope was opened, inside another one or as an outermost one. -/
  | opened (scope : ScopeId) (outer : Option ScopeId)
  /-- A scope declared a name. -/
  | declared (scope : ScopeId) (name : String) (value : Value) (mutability : Mutability)
  /-- A name was assigned to from a scope. -/
  | assigned (scope : ScopeId) (name : String) (value : Value)

/-- What an event creates, if it does: a scope, or a name in a scope. -/
def Event.creation? : Event → Option (ScopeId × Option String)
  | opened scope _ => some (scope, none)
  | declared scope name _ _ => some (scope, some name)
  | assigned .. => none

/-- What has happened, the latest first. -/
abbrev History := List Event

namespace History

/-- The scopes that were opened, and the names that were declared in them. -/
def creations (h : History) : List (ScopeId × Option String) := h.filterMap Event.creation?

/-- A scope and the ones around it, as they were opened, from the inside to the outside. -/
def chain : History → ScopeId → List ScopeId
  | [], _ => []
  | .opened scope outer :: earlier, x =>
    if x = scope then x :: outer.elim [] (chain earlier) else chain earlier x
  | .declared .. :: earlier, x | .assigned .. :: earlier, x => chain earlier x

/-- The mutability with which a scope declared a name. -/
def declared? : History → ScopeId → String → Option Mutability
  | [], _, _ => none
  | .declared scope name' _ mutability :: earlier, x, name =>
    if x = scope ∧ name = name' then some mutability else declared? earlier x name
  | .opened .. :: earlier, x, name | .assigned .. :: earlier, x, name => declared? earlier x name

/-- The nearest scope, from here outwards, that has declared a name. -/
def owner? (h : History) (x : ScopeId) (name : String) : Option ScopeId :=
  (h.chain x).find? fun scope => (h.declared? scope name).isSome

/-- The value that was written last to the binding of a name in a scope: declared there, or assigned
from a scope where the name stood, at that time, for this binding. -/
def lastWrite? : History → ScopeId → String → Option Value
  | [], _, _ => none
  | .declared scope name' value _ :: earlier, x, name =>
    if x = scope ∧ name = name' then some value else lastWrite? earlier x name
  | .assigned scope name' value :: earlier, x, name =>
    if name = name' ∧ owner? earlier scope name' = some x then some value
    else lastWrite? earlier x name
  | .opened .. :: earlier, x, name => lastWrite? earlier x name

variable {h : History} {x : ScopeId} {name : String}

/-- `declared?` knows a name where it is among the `creations`. -/
theorem declared?_eq_none_iff : h.declared? x name = none ↔ (x, some name) ∉ h.creations := by
  induction h with
  | nil => simp [declared?, creations]
  | cons event earlier ih =>
    cases event with
    -- Only a declaration creates a name.
    | opened scope outer => simpa [declared?, creations, Event.creation?] using ih
    | assigned scope name' value => simpa [declared?, creations, Event.creation?] using ih
    | declared scope name' value m =>
      have hcreations : creations (.declared scope name' value m :: earlier) =
        (scope, some name') :: creations earlier := rfl
      rw [declared?, hcreations, List.mem_cons, not_or]
      split
      next hboth =>
        obtain ⟨rfl, rfl⟩ := hboth
        simp
      next hother =>
        have hne : (x, some name) ≠ (scope, some name') := by
          intro heq
          cases heq
          exact hother ⟨rfl, rfl⟩
        rw [ih]
        exact ⟨fun hnew => ⟨hne, hnew⟩, fun hboth => hboth.2⟩

/-- `owner?` gives a scope that has declared the name. -/
theorem isSome_declared?_of_owner? {owner : ScopeId} (ho : h.owner? x name = some owner) :
    (h.declared? owner name).isSome := by
  have hsome := List.find?_some ho
  exact hsome

/-- `lastWrite?` knows nothing of a binding that was not declared. -/
theorem lastWrite?_of_declared? (hnone : h.declared? x name = none) :
    h.lastWrite? x name = none := by
  induction h with
  | nil => rfl
  | cons event earlier ih =>
    cases event with
    | opened scope outer => exact ih hnone
    | declared scope name' value m =>
      rw [declared?] at hnone
      split at hnone
      next => cases hnone
      next hother =>
        rw [lastWrite?, if_neg hother]
        exact ih hnone
    | assigned scope name' value =>
      rw [declared?] at hnone
      have hother : ¬ (name = name' ∧ History.owner? earlier scope name' = some x) := by
        rintro ⟨rfl, howner⟩
        -- An assignment from inside reaches only a scope that has declared the name.
        have hdeclared := isSome_declared?_of_owner? howner
        rw [hnone] at hdeclared
        cases hdeclared
      rw [lastWrite?, if_neg hother]
      exact ih hnone

end History

namespace Store

/-- The store is what the history tells. -/
structure Agrees (s : Store) (h : History) : Prop where
  chain_eq : ∀ {x}, s.Live x → s.chain x = h.chain x
  declared_eq : ∀ {x}, s.Live x → ∀ name,
    h.declared? x name = (s.binding? x name).map Binding.mutability
  written_eq : ∀ {x}, s.Live x → ∀ name,
    h.lastWrite? x name = (s.binding? x name).map Binding.value
  /-- No scope was opened twice, and no name was declared twice in a scope. -/
  once : h.creations.Nodup
  /-- A number that was not given to a scope yet does not occur. -/
  unused : ∀ {x}, s.scopes.size ≤ x.index → ∀ name?, (x, name?) ∉ h.creations

variable {s s' : Store} {h : History} {x owner : ScopeId} {name : String} {value : Value}
  {m : Mutability} {handles : Multiset ScopeId}

/-- The empty store `Agrees` with the empty history. -/
theorem agrees_empty : empty.Agrees [] := by
  refine ⟨?_, ?_, ?_, List.nodup_nil, fun _ _ => List.not_mem_nil⟩
  all_goals
    intro x hlive
    cases hlive

/-- `Agrees` is kept when scopes are released and held, which is no event. -/
theorem Agrees.within (ha : s.Agrees h) (hw : s'.Within s) : s'.Agrees h := by
  refine ⟨?_, ?_, ?_, ha.once, ?_⟩
  · intro x hlive
    rw [hw.chain_eq hlive]
    exact ha.chain_eq (hw.live hlive)
  · intro x hlive name
    rw [hw.binding?_eq hlive]
    exact ha.declared_eq (hw.live hlive) name
  · intro x hlive name
    rw [hw.binding?_eq hlive]
    exact ha.written_eq (hw.live hlive) name
  · intro x hsize
    rw [hw.size_eq] at hsize
    exact ha.unused hsize

/-- `owner?` of a name is the scope that it resolves to. -/
theorem Agrees.owner?_eq (ha : s.Agrees h) (hheld : s.Held handles) (hlive : s.Live x)
    (name : String) : h.owner? x name = (s.chain x).find? (s.hasLocal · name) := by
  rw [History.owner?, ← ha.chain_eq hlive]
  refine List.find?_congr ?_
  intro scope hscope
  -- The scopes around a living scope are alive, so they still bind what they declared.
  rw [ha.declared_eq (hheld.live_of_mem_chain hscope), hasLocal_eq, Option.isSome_map]

/-! ## One more event -/

/-- `Agrees` is kept by a new scope, which binds nothing, and whose chain goes on with that of the
scope around it. -/
theorem Agrees.opened (ha : s.Agrees h) {scope : Scope} {outer : Option ScopeId}
    (hbindings : scope.bindings = .empty) (hlive : ∀ p ∈ outer, s.Live p)
    (henclosing : scope.enclosing = outer.elim [] s.chain) :
    (s.add scope).2.Agrees (.opened (s.add scope).1 outer :: h) := by
  have hget (x : ScopeId) := get?_add s scope x
  have hnew : ∀ name?, ((s.add scope).1, name?) ∉ h.creations := ha.unused (Nat.le_refl _)
  have hindex : (s.add scope).1.index = s.scopes.size := rfl
  have hsize : (s.add scope).2.scopes.size = s.scopes.size + 1 := Array.size_push _
  generalize (s.add scope).1 = new at *
  generalize (s.add scope).2 = s' at *
  have hold {x : ScopeId} (hx : x ≠ new) : s'.get? x = s.get? x := by rw [hget, if_neg hx]
  have hthere : s'.get? new = some scope := by rw [hget, if_pos rfl]
  -- The number of the new scope was not used before, so nothing was declared under it.
  have hundeclared (name : String) : h.declared? new name = none :=
    History.declared?_eq_none_iff.2 (hnew (some name))
  -- The three tables are the same as before for the other scopes; the new one has its chain and no
  -- names.
  refine ⟨?_, ?_, ?_, List.nodup_cons.2 ⟨hnew none, ha.once⟩, ?_⟩
  · intro x hx
    rw [History.chain]
    split
    next heq =>
      rw [heq, chain_of_get? hthere, henclosing]
      cases outer with
      | none => rfl
      | some p => rw [Option.elim_some, Option.elim_some, ha.chain_eq (hlive p rfl)]
    next hne =>
      rw [Live, hold hne] at hx
      rw [chain, hold hne]
      exact ha.chain_eq hx
  · intro x hx name
    by_cases hne : x = new
    · rw [hne, binding?_of_get? hthere, hbindings, Bindings.get?_empty]
      exact hundeclared name
    · rw [Live, hold hne] at hx
      rw [binding?, bindings, hold hne]
      exact ha.declared_eq hx name
  · intro x hx name
    by_cases hne : x = new
    · rw [hne, binding?_of_get? hthere, hbindings, Bindings.get?_empty]
      exact History.lastWrite?_of_declared? (hundeclared name)
    · rw [Live, hold hne] at hx
      rw [binding?, bindings, hold hne]
      exact ha.written_eq hx name
  · intro x hx name?
    have hne : (x, name?) ≠ (new, none) := by
      intro heq
      cases heq
      omega
    exact List.not_mem_cons_of_ne_of_not_mem hne (ha.unused (by omega) name?)

/-- `Agrees` is kept by the declaration of a name that the scope has not declared. -/
theorem Agrees.declared (ha : s.Agrees h) (hlive : s.Live x) (hnew : s.binding? x name = none) :
    (s.rebind x (·.insert ⟨name, value, m⟩)).Agrees (.declared x name value m :: h) := by
  have hbinding := binding?_rebind_insert hlive (b := ⟨name, value, m⟩) hnew
  have hundeclared : (x, some name) ∉ h.creations := by
    rw [← History.declared?_eq_none_iff, ha.declared_eq hlive, hnew]
    rfl
  -- The declaration is the latest event about this name in this scope, and no event about any
  -- other.
  refine ⟨?_, ?_, ?_, List.nodup_cons.2 ⟨hundeclared, ha.once⟩, ?_⟩
  · intro y hy
    rw [chain_rebind]
    exact ha.chain_eq (live_rebind.1 hy)
  · intro y hy name'
    rw [hbinding, History.declared?, ha.declared_eq (live_rebind.1 hy)]
    split <;> rfl
  · intro y hy name'
    rw [hbinding, History.lastWrite?]
    split
    · rfl
    · exact ha.written_eq (live_rebind.1 hy) name'
  · intro y hy name?
    have hsize : s.scopes.size ≤ y.index := by
      rwa [rebind, modify, Array.size_modify] at hy
    have hlt := hlive.index_lt
    have hne : (y, name?) ≠ (x, some name) := by
      intro heq
      cases heq
      omega
    exact List.not_mem_cons_of_ne_of_not_mem hne (ha.unused hsize name?)

/-- `Agrees` is kept by an assignment, which is recorded where the name is bound. -/
theorem Agrees.assigned (ha : s.Agrees h) (hheld : s.Held handles) (hlive : s.Live x)
    (hresolve : s.resolve x name = .ok owner) :
    (s.rebind owner (·.update name value)).Agrees (.assigned x name value :: h) := by
  obtain ⟨b, hb⟩ := exists_binding_of_resolve hresolve
  have hbinding := binding?_rebind_update (live_of_binding? hb) name value
  have howner : h.owner? x name = some owner :=
    (ha.owner?_eq hheld hlive name).trans (resolve_eq_ok_iff.1 hresolve)
  refine ⟨?_, ?_, ?_, ha.once, ?_⟩
  · intro y hy
    rw [chain_rebind]
    exact ha.chain_eq (live_rebind.1 hy)
  · intro y hy name'
    rw [hbinding, History.declared?, ha.declared_eq (live_rebind.1 hy)]
    split
    · rw [Option.map_map]
      rfl
    · rfl
  · intro y hy name'
    rw [hbinding, History.lastWrite?, howner]
    by_cases hboth : y = owner ∧ name' = name
    · obtain ⟨rfl, rfl⟩ := hboth
      rw [if_pos ⟨rfl, rfl⟩, if_pos ⟨rfl, rfl⟩, hb]
      rfl
    · -- The name stands for the binding of `owner` only.
      have hother : ¬ (name' = name ∧ some owner = some y) := fun hw =>
        hboth ⟨(Option.some.inj hw.2).symm, hw.1⟩
      rw [if_neg hboth, if_neg hother]
      exact ha.written_eq (live_rebind.1 hy) name'
  · intro y hy name?
    have hsize : s.scopes.size ≤ y.index := by
      rwa [rebind, modify, Array.size_modify] at hy
    exact ha.unused hsize name?

/-! ## Answers -/

/-- What the store that `Agrees` answers about a name is what the history tells: the name is
unresolved and has no owner, or it resolves to its owner and has the value that was written last and
the mutability that it was declared with. -/
theorem Agrees.cases (ha : s.Agrees h) (hheld : s.Held handles) (hlive : s.Live x) (name : String) :
    (h.owner? x name = none ∧ s.resolve x name = .error (.unresolved name)) ∨
    (∃ owner b, h.owner? x name = some owner ∧ s.resolve x name = .ok owner ∧
      s.lookupBinding x name = .ok b ∧ h.lastWrite? owner name = some b.value ∧
      h.declared? owner name = some b.mutability) := by
  have howner := ha.owner?_eq hheld hlive name
  cases hresolve : s.resolve x name with
  | error e =>
    obtain ⟨hnone, rfl⟩ := resolve_eq_error_iff.1 hresolve
    exact .inl ⟨howner.trans hnone, rfl⟩
  | ok owner =>
    obtain ⟨b, hb⟩ := exists_binding_of_resolve hresolve
    have hlive' := live_of_binding? hb
    refine .inr ⟨owner, b, howner.trans (resolve_eq_ok_iff.1 hresolve), rfl,
      lookupBinding_of_resolve hresolve hb, ?_, ?_⟩
    · rw [ha.written_eq hlive', hb, Option.map_some]
    · rw [ha.declared_eq hlive', hb, Option.map_some]

end Store

end ScriptCore
