import Mathlib.Tactic.ByContra
import ScriptCore.Scope.Store

/-!
# What is in a store

A store is read scope by scope with `get?`, and binding by binding with `binding?`.  The lemmas here
say what each change of a store does to these two and to the chains; what is proved about stores
elsewhere rests on them and does not open the array of scopes again.

* `get?_modify`, `get?_remove`, `get?_add`: a change concerns one scope;
* `exists_binding_of_resolve`, `lookupBinding_of_resolve`, `lookupBinding_congr`: what a name stands
  for;
* `declare_cases`, `assign_cases`: everything that declaring and assigning can do.
-/

namespace ScriptCore

namespace Bindings

/-- `contains` a name exactly when it has a binding. -/
theorem contains_eq_isSome (bs : Bindings) (name : String) :
    bs.contains name = (bs.get? name).isSome := by
  rw [contains, get?, List.isSome_find?]

/-- `get?` of a name gives a binding with that name. -/
theorem name_of_get? {bs : Bindings} {name : String} {b : Binding} (h : bs.get? name = some b) :
    b.name = name := by
  have := List.find?_some h
  simpa using this

/-- `empty` binds nothing. -/
@[simp] theorem get?_empty (name : String) : empty.get? name = none := rfl

/-- `insert` makes a new binding that is found under its name, and leaves the others. -/
theorem get?_insert {bs : Bindings} {b : Binding} (h : bs.get? b.name = none) (name : String) :
    (bs.insert b).get? name = if b.name = name then some b else bs.get? name := by
  have hnew : ¬ bs.contains b.name := by
    rw [contains_eq_isSome, h]
    simp
  rw [insert, dif_neg hnew, get?, get?, List.find?_cons]
  by_cases hname : b.name = name
  · rw [if_pos hname, beq_iff_eq.2 hname]
  · rw [if_neg hname, beq_eq_false_iff_ne.2 hname]

/-- `update` changes the binding of its name and no other. -/
theorem get?_update (bs : Bindings) (name : String) (value : Value) (name' : String) :
    (bs.update name value).get? name' = (bs.get? name').map (withValue name value) := by
  have hsame : ((fun b : Binding => b.name == name') ∘ withValue name value) =
      fun b : Binding => b.name == name' := by
    funext b
    rw [Function.comp_apply, withValue_name]
  rw [get?, get?, update, List.find?_map, hsame]

/-- `update` of another name leaves the binding as it is. -/
theorem get?_update_of_ne {bs : Bindings} {name other : String} (hne : other ≠ name)
    (value : Value) : (bs.update other value).get? name = bs.get? name := by
  rw [get?_update]
  cases hb : bs.get? name with
  | none => rfl
  | some b =>
    have hname : b.name ≠ other := by
      rw [name_of_get? hb]
      exact hne.symm
    rw [Option.map_some, withValue, if_neg hname]

end Bindings

namespace Store

variable {s : Store} {id x : ScopeId} {scope : Scope} {name : String}

/-- The scope is there. -/
def Live (s : Store) (id : ScopeId) : Prop := (s.get? id).isSome

instance (s : Store) (id : ScopeId) : Decidable (s.Live id) :=
  inferInstanceAs (Decidable ((s.get? id).isSome = true))

/-- The binding of a name in a scope itself. -/
def binding? (s : Store) (id : ScopeId) (name : String) : Option Binding :=
  (s.bindings id).get? name

/-! ## Scope by scope -/

/-- Scopes with different numbers are in different places. -/
private theorem index_ne (h : x ≠ id) : x.index ≠ id.index := fun heq =>
  h (congrArg ScopeId.mk heq)

/-- `modify` changes one scope and leaves the others. -/
theorem get?_modify (s : Store) (id : ScopeId) (f : Scope → Scope) (x : ScopeId) :
    (s.modify id f).get? x = if x = id then (s.get? x).map f else s.get? x := by
  rw [get?, get?, modify, Array.getElem?_modify]
  by_cases h : x = id
  · subst h
    rw [if_pos rfl, if_pos rfl]
    cases s.scopes[x.index]? <;> rfl
  · rw [if_neg (index_ne h).symm, if_neg h]

/-- `remove` takes one scope away and leaves the others. -/
theorem get?_remove (s : Store) (id x : ScopeId) :
    (s.remove id).get? x = if x = id then none else s.get? x := by
  rw [get?, get?, remove, Array.getElem?_modify]
  by_cases h : x = id
  · subst h
    rw [if_pos rfl, if_pos rfl]
    cases s.scopes[x.index]? <;> rfl
  · rw [if_neg (index_ne h).symm, if_neg h]

/-- `add` puts a scope under its number and leaves the others. -/
theorem get?_add (s : Store) (scope : Scope) (x : ScopeId) :
    (s.add scope).2.get? x = if x = (s.add scope).1 then some scope else s.get? x := by
  rw [get?, get?, add, Array.getElem?_push]
  by_cases h : x = ⟨s.scopes.size⟩
  · subst h
    rw [if_pos rfl, if_pos rfl]
    rfl
  · rw [if_neg (index_ne h), if_neg h]

/-- `Live` scopes have numbers below the number of places. -/
theorem Live.index_lt (h : s.Live id) : id.index < s.scopes.size := by
  by_contra hle
  have hnone : s.scopes[id.index]? = none := Array.getElem?_eq_none (by omega)
  rw [Live, get?, hnone] at h
  simp at h

/-- `add` gives a number that was not used. -/
theorem not_live_add (s : Store) (scope : Scope) : ¬ s.Live (s.add scope).1 := by
  intro h
  have hlt := h.index_lt
  exact Nat.lt_irrefl _ hlt

/-- `Live` scopes are those that `get?` finds. -/
theorem live_iff : s.Live id ↔ ∃ scope, s.get? id = some scope := Option.isSome_iff_exists

/-- What `get?` finds is `Live`. -/
theorem live_of_get? (h : s.get? id = some scope) : s.Live id := live_iff.2 ⟨scope, h⟩

/-! ## Bindings and chains -/

/-- `bindings` of a scope are its own. -/
theorem bindings_of_get? (h : s.get? id = some scope) : s.bindings id = scope.bindings := by
  rw [bindings, h]
  rfl

/-- `binding?` looks at the bindings of the scope itself. -/
theorem binding?_of_get? (h : s.get? id = some scope) (name : String) :
    s.binding? id name = scope.bindings.get? name := by
  rw [binding?, bindings_of_get? h]

/-- `chain` begins with the scope and goes on with those around it. -/
theorem chain_of_get? (h : s.get? id = some scope) : s.chain id = id :: scope.enclosing := by
  rw [chain, h]

/-- `chain` is empty if the scope is not there. -/
theorem live_iff_mem_chain : s.Live id ↔ id ∈ s.chain id := by
  rw [Live, chain]
  cases s.get? id <;> simp

/-- `root` is the last scope of the chain. -/
theorem root_mem_chain (h : s.Live id) : s.root id ∈ s.chain id := by
  have hne := List.ne_nil_of_mem (live_iff_mem_chain.1 h)
  rw [root, List.getLast?_eq_some_getLast hne]
  exact List.getLast_mem hne

/-- `get?` finds nothing where no scope is alive. -/
theorem not_live_iff : ¬ s.Live id ↔ s.get? id = none := by
  rw [Live]
  cases s.get? id <;> simp

/-- `binding?` finds nothing in a scope that is not there. -/
theorem binding?_of_not_live (h : ¬ s.Live id) (name : String) : s.binding? id name = none := by
  rw [binding?, bindings, not_live_iff.1 h]
  rfl

/-- Only a scope that is there binds anything. -/
theorem live_of_binding? {b : Binding} (h : s.binding? id name = some b) : s.Live id := by
  by_contra hdead
  rw [binding?_of_not_live hdead] at h
  cases h

/-- `hasLocal` asks for a binding. -/
theorem hasLocal_eq (s : Store) (id : ScopeId) (name : String) :
    s.hasLocal id name = (s.binding? id name).isSome := Bindings.contains_eq_isSome _ _

/-- `modify` makes no scope: each was there before. -/
theorem exists_of_get?_modify {f : Scope → Scope} (h : (s.modify id f).get? x = some scope) :
    ∃ before, s.get? x = some before ∧ scope = if x = id then f before else before := by
  rw [get?_modify] at h
  split at h
  next hx =>
    obtain ⟨before, hbefore, hscope⟩ := Option.map_eq_some_iff.1 h
    exact ⟨before, hbefore, by rw [if_pos hx, hscope]⟩
  next hx => exact ⟨scope, h, by rw [if_neg hx]⟩

/-- `chain` depends on nothing but what is around each scope. -/
theorem chain_modify {f : Scope → Scope} (hf : ∀ scope, (f scope).enclosing = scope.enclosing)
    (s : Store) (id x : ScopeId) : (s.modify id f).chain x = s.chain x := by
  rw [chain, chain, get?_modify]
  by_cases hx : x = id
  · rw [if_pos hx]
    cases s.get? x with
    | none => rfl
    | some scope => exact congrArg (x :: ·) (hf scope)
  · rw [if_neg hx]

/-- `modify` keeps all scopes alive. -/
theorem live_modify {f : Scope → Scope} : (s.modify id f).Live x ↔ s.Live x := by
  rw [Live, Live, get?_modify]
  split <;> simp

/-- `retain` changes no chain. -/
theorem chain_retain (s : Store) (id x : ScopeId) : (s.retain id).chain x = s.chain x := by
  rw [retain, chain_modify]
  exact fun _ => rfl

/-- `retain` keeps all scopes alive. -/
theorem live_retain : (s.retain id).Live x ↔ s.Live x := by
  rw [retain, live_modify]

/-! ## What a name stands for -/

variable {s' : Store} {owner : ScopeId} {e : BindingError} {b : Binding} {value : Value}
  {m : Mutability}

/-- `resolve` gives the first scope of the chain that declares the name. -/
theorem resolve_eq_ok_iff :
    s.resolve id name = .ok owner ↔ (s.chain id).find? (s.hasLocal · name) = some owner := by
  rw [resolve]
  cases (s.chain id).find? (s.hasLocal · name) <;> simp

/-- `resolve` fails if no scope of the chain declares the name. -/
theorem resolve_eq_error_iff :
    s.resolve id name = .error e ↔
      (s.chain id).find? (s.hasLocal · name) = none ∧ e = .unresolved name := by
  rw [resolve]
  cases (s.chain id).find? (s.hasLocal · name) <;> simp [eq_comm]

/-- `resolve` gives a scope that binds the name. -/
theorem exists_binding_of_resolve (h : s.resolve id name = .ok owner) :
    ∃ b, s.binding? owner name = some b := by
  have hlocal := List.find?_some (resolve_eq_ok_iff.1 h)
  rw [hasLocal_eq] at hlocal
  exact Option.isSome_iff_exists.1 hlocal

/-- `lookupBinding` gives what the name is bound to in the scope that it resolves to. -/
theorem lookupBinding_of_resolve (h : s.resolve id name = .ok owner)
    (hb : s.binding? owner name = some b) : s.lookupBinding id name = .ok b := by
  rw [binding?] at hb
  simp only [lookupBinding, h, hb, bind, Except.bind]
  rfl

/-- `lookupBinding` gives nothing for a name that does not resolve. -/
theorem lookupBinding_of_unresolved (h : s.resolve id name = .error e) :
    s.lookupBinding id name = .error e := by
  rw [lookupBinding, h]
  rfl

/-- `lookupBinding` depends on where the name resolves to, and on the binding that it has there. -/
theorem lookupBinding_congr (hresolve : s'.resolve id name = s.resolve id name)
    (hbinding : ∀ owner, s.resolve id name = .ok owner →
      s'.binding? owner name = s.binding? owner name) :
    s'.lookupBinding id name = s.lookupBinding id name := by
  cases howner : s.resolve id name with
  | error e =>
    rw [lookupBinding_of_unresolved howner, lookupBinding_of_unresolved (hresolve.trans howner)]
  | ok owner =>
    obtain ⟨b, hb⟩ := exists_binding_of_resolve howner
    rw [lookupBinding_of_resolve howner hb, lookupBinding_of_resolve (hresolve.trans howner)
      ((hbinding owner howner).trans hb)]

/-! ## Declaring and assigning -/

/-- Changes the bindings of a scope. -/
def rebind (s : Store) (id : ScopeId) (f : Bindings → Bindings) : Store :=
  s.modify id fun scope => { scope with bindings := f scope.bindings }

/-- `rebind` changes the bindings of one scope. -/
theorem get?_rebind (s : Store) (id : ScopeId) (f : Bindings → Bindings) (x : ScopeId) :
    (s.rebind id f).get? x =
      if x = id then (s.get? x).map fun scope => { scope with bindings := f scope.bindings }
      else s.get? x := get?_modify s id _ x

/-- `rebind` changes no chain. -/
theorem chain_rebind (s : Store) (id : ScopeId) (f : Bindings → Bindings) (x : ScopeId) :
    (s.rebind id f).chain x = s.chain x := by
  rw [rebind, chain_modify]
  exact fun _ => rfl

/-- `rebind` keeps all scopes alive. -/
theorem live_rebind {f : Bindings → Bindings} : (s.rebind id f).Live x ↔ s.Live x := by
  rw [rebind, live_modify]

/-- `rebind` changes no holds. -/
theorem holds_rebind (s : Store) (id : ScopeId) (f : Bindings → Bindings) (x : ScopeId) :
    ((s.rebind id f).get? x).map Scope.holds = (s.get? x).map Scope.holds := by
  rw [get?_rebind]
  split
  · rw [Option.map_map]
    rfl
  · rfl

/-- `rebind` gives the scope its new bindings. -/
theorem bindings_rebind_self (h : s.Live id) (f : Bindings → Bindings) :
    (s.rebind id f).bindings id = f (s.bindings id) := by
  obtain ⟨scope, hget⟩ := live_iff.1 h
  have hrebound : (s.rebind id f).get? id = some { scope with bindings := f scope.bindings } := by
    rw [get?_rebind, if_pos rfl, hget]
    rfl
  rw [bindings_of_get? hrebound, bindings_of_get? hget]

/-- `rebind` leaves the bindings of all other scopes. -/
theorem bindings_rebind_of_ne (hne : x ≠ id) (f : Bindings → Bindings) :
    (s.rebind id f).bindings x = s.bindings x := by
  rw [bindings, bindings, get?_rebind, if_neg hne]

/-- `rebind` changes what is found in one scope. -/
theorem binding?_rebind (h : s.Live id) (f : Bindings → Bindings) (x : ScopeId) (name : String) :
    (s.rebind id f).binding? x name =
      if x = id then (f (s.bindings id)).get? name else s.binding? x name := by
  rw [binding?]
  split
  next hx => rw [hx, bindings_rebind_self h]
  next hx => rw [bindings_rebind_of_ne hx, binding?]

/-- `rebind` with a new binding changes what is found under its name in one scope. -/
theorem binding?_rebind_insert (h : s.Live id) (hnew : s.binding? id b.name = none) (x : ScopeId)
    (name : String) :
    (s.rebind id (·.insert b)).binding? x name =
      if x = id ∧ name = b.name then some b else s.binding? x name := by
  rw [binding?_rebind h]
  by_cases hx : x = id
  · rw [if_pos hx, Bindings.get?_insert hnew, hx]
    by_cases hname : b.name = name
    · rw [if_pos hname, if_pos ⟨rfl, hname.symm⟩]
    · rw [if_neg hname, if_neg fun hboth => hname hboth.2.symm, binding?]
  · rw [if_neg hx, if_neg fun hboth => hx hboth.1]

/-- `rebind` with another value changes what is found under its name in one scope. -/
theorem binding?_rebind_update (h : s.Live id) (name : String) (value : Value) (x : ScopeId)
    (name' : String) :
    (s.rebind id (·.update name value)).binding? x name' =
      if x = id ∧ name' = name then (s.binding? x name').map fun b => { b with value }
      else s.binding? x name' := by
  rw [binding?_rebind h]
  -- Only the scope itself is changed, and there only the binding of this name.
  by_cases hx : x = id
  · rw [if_pos hx, Bindings.get?_update, hx, ← binding?]
    cases hb : s.binding? id name' with
    | none => simp
    | some b =>
      have hname := Bindings.name_of_get? hb
      simp only [Option.map_some, Bindings.withValue, hname, true_and]
      split <;> rfl
  · rw [if_neg hx, if_neg fun hboth => hx hboth.1]

/-- `declare` fails for a name that the scope has declared. -/
theorem declare_of_bound (h : s.binding? id name = some b) :
    s.declare id name value m = (.error (.duplicate name), s) := by
  rw [declare, hasLocal_eq, h]
  rfl

/-- `declare` adds a binding for any other name. -/
theorem declare_of_unbound (h : s.binding? id name = none) :
    s.declare id name value m = (.ok value, s.rebind id (·.insert ⟨name, value, m⟩)) := by
  rw [declare, hasLocal_eq, h]
  rfl

/-- `assign` fails for a name that does not resolve. -/
theorem assign_of_unresolved (h : s.resolve id name = .error e) :
    s.assign id name value = (.error e, s) := by
  rw [assign, h]

/-- `assign` fails for a constant. -/
theorem assign_of_constant (h : s.resolve id name = .ok owner)
    (hb : s.binding? owner name = some b) (hm : b.mutability = .constant) :
    s.assign id name value = (.error (.immutable name), s) := by
  rw [binding?] at hb
  simp only [assign, h, hb, hm]
  rfl

/-- `assign` changes the value in the scope that the name resolves to. -/
theorem assign_of_mutable (h : s.resolve id name = .ok owner)
    (hb : s.binding? owner name = some b) (hm : b.mutability = .mutable) :
    s.assign id name value = (.ok value, s.rebind owner (·.update name value)) := by
  rw [binding?] at hb
  simp only [assign, h, hb, hm]
  rfl

/-- `declare` fails and changes nothing, or it adds a binding that was not there. -/
theorem declare_cases (s : Store) (id : ScopeId) (name : String) (value : Value) (m : Mutability) :
    (∃ b, s.binding? id name = some b ∧
      s.declare id name value m = (.error (.duplicate name), s)) ∨
    (s.binding? id name = none ∧
      s.declare id name value m = (.ok value, s.rebind id (·.insert ⟨name, value, m⟩))) := by
  cases h : s.binding? id name with
  | some b => exact .inl ⟨b, rfl, declare_of_bound h⟩
  | none => exact .inr ⟨rfl, declare_of_unbound h⟩

/-- `assign` fails and changes nothing, or it changes the value of a mutable binding in the scope
that the name resolves to. -/
theorem assign_cases (s : Store) (id : ScopeId) (name : String) (value : Value) :
    (∃ e, s.assign id name value = (.error e, s)) ∨
    (∃ owner b, s.resolve id name = .ok owner ∧ s.binding? owner name = some b ∧
      b.mutability = .mutable ∧
      s.assign id name value = (.ok value, s.rebind owner (·.update name value))) := by
  cases h : s.resolve id name with
  | error e => exact .inl ⟨e, assign_of_unresolved h⟩
  | ok owner =>
    obtain ⟨b, hb⟩ := exists_binding_of_resolve h
    cases hm : b.mutability with
    | constant => exact .inl ⟨_, assign_of_constant h hb hm⟩
    | mutable => exact .inr ⟨owner, b, rfl, hb, hm, assign_of_mutable h hb hm⟩

end Store

end ScriptCore
