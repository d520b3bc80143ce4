import ScriptCore.Proofs.Scope.Search

/-!
# What one write shows

Declaring and assigning change the bindings of one scope.  The scopes inside it see the change too,
as far as their own search for the name gets to that scope; all other questions are answered as
before.

* `Declared`, `declared_rebind`: all that can be asked after a declaration;
* `Assigned`, `assigned_rebind`: and after an assignment;
* `effect_of_write`: every write that succeeds has this effect.
-/

namespace ScriptCore

namespace Bindings

variable {bs : Bindings} {b : Binding}

/-- `insert` of a new binding puts one more at the front. -/
theorem toList_insert (h : bs.get? b.name = none) : (bs.insert b).toList = b :: bs.toList := by
  have hnew : ¬ bs.contains b.name := by
    rw [contains_eq_isSome, h]
    simp
  rw [insert, dif_neg hnew]

/-- `update` changes the value of one binding of the list. -/
theorem toList_update (bs : Bindings) (name : String) (value : Value) :
    (bs.update name value).toList = bs.toList.map (withValue name value) := rfl

/-- `update` keeps the number of bindings. -/
theorem size_update (bs : Bindings) (name : String) (value : Value) :
    (bs.update name value).size = bs.size := List.length_map _

end Bindings

namespace Store

/-! ## What is asked -/

/-- What is asked about a name in a scope is answered as in the first store. -/
structure AnswersAlike (s s' : Store) (x : ScopeId) (name : String) : Prop where
  resolve_eq : s'.resolve x name = s.resolve x name
  lookup_eq : s'.lookup x name = s.lookup x name
  isConstant_eq : s'.isConstant x name = s.isConstant x name

/-- The second store is what the first one becomes when a scope declares a binding. -/
structure Declared (s s' : Store) (e : ScopeId) (b : Binding) : Prop where
  /-- Where the search for the name gets to the scope, the name now stands for the binding. -/
  shown : ∀ {x}, s.Searches x b.name e → s'.resolve x b.name = .ok e ∧
    s'.lookup x b.name = .ok b.value ∧ s'.isConstant x b.name = .ok b.mutability.isConstant
  kept : ∀ {x name}, ¬ (name = b.name ∧ s.Searches x name e) → s.AnswersAlike s' x name
  hasLocal_before : s.hasLocal e b.name = false
  hasLocal_eq : ∀ x name, s'.hasLocal x name =
    if x = e ∧ name = b.name then true else s.hasLocal x name
  localSize_eq : ∀ x, s'.localSize x = s.localSize x + if x = e then 1 else 0

/-- The second store is what the first one becomes when a name is given another value in its
owner. -/
structure Assigned (s s' : Store) (owner : ScopeId) (name : String) (value : Value) : Prop where
  lookup_eq : ∀ x name', s'.lookup x name' =
    if name' = name ∧ s.resolve x name' = .ok owner then .ok value else s.lookup x name'
  resolve_eq : ∀ x name', s'.resolve x name' = s.resolve x name'
  isConstant_eq : ∀ x name', s'.isConstant x name' = s.isConstant x name'
  hasLocal_eq : ∀ x name', s'.hasLocal x name' = s.hasLocal x name'
  localSize_eq : ∀ x, s'.localSize x = s.localSize x

variable {s s' : Store} {e x owner : ScopeId} {name : String} {b : Binding} {value : Value}

/-- `AnswersAlike` follows from the owner and its binding of the name, which are all that matters.
-/
theorem answersAlike_of_resolve (hresolve : s'.resolve x name = s.resolve x name)
    (hbinding : ∀ owner, s.resolve x name = .ok owner →
      s'.binding? owner name = s.binding? owner name) : s.AnswersAlike s' x name := by
  have hlookup : s'.lookupBinding x name = s.lookupBinding x name :=
    lookupBinding_congr hresolve hbinding
  exact ⟨hresolve, by rw [lookup, lookup, hlookup], by rw [isConstant, isConstant, hlookup]⟩

/-! ## Declaring -/

/-- `hasLocal` holds of the new binding, and else of what it held before. -/
theorem hasLocal_rebind_insert (he : s.Live e) (hnew : s.binding? e b.name = none) (x : ScopeId)
    (name : String) : (s.rebind e (·.insert b)).hasLocal x name =
      if x = e ∧ name = b.name then true else s.hasLocal x name := by
  rw [hasLocal_eq, hasLocal_eq, binding?_rebind_insert he hnew]
  split <;> rfl

/-- `resolve` of the new name ends in the scope that declares it, wherever the search got there
before. -/
theorem resolve_rebind_insert (he : s.Live e) (hnew : s.binding? e b.name = none)
    (hsearch : s.Searches x b.name e) :
    (s.rebind e (·.insert b)).resolve x b.name = .ok e := by
  have hlocal := hasLocal_rebind_insert he hnew
  obtain ⟨nearer, further, hchain, hnearer⟩ := hsearch
  rw [resolve_eq_ok_iff, chain_rebind, hchain, List.find?_append]
  cases hfound : nearer.find? ((s.rebind e (·.insert b)).hasLocal · b.name) with
  | none => rw [Option.none_or, List.find?_cons_of_pos (by rw [hlocal, if_pos ⟨rfl, rfl⟩])]
  | some z =>
    -- The nearer scopes declare the name no more than before, so this is the scope itself.
    have hz := List.find?_some hfound
    rw [hlocal] at hz
    split at hz
    next heq => rw [heq.1, Option.some_or]
    next => cases hz.symm.trans (hnearer z (List.mem_of_find?_eq_some hfound))

/-- `Declared`: a new binding is shown where the search for its name gets to it, and nowhere else.
-/
theorem declared_rebind (he : s.Live e) (hnew : s.binding? e b.name = none) :
    s.Declared (s.rebind e (·.insert b)) e b where
  shown := by
    intro x hsearch
    have hresolve := resolve_rebind_insert he hnew hsearch
    have hb : (s.rebind e (·.insert b)).binding? e b.name = some b := by
      rw [binding?_rebind_insert he hnew, if_pos ⟨rfl, rfl⟩]
    exact ⟨hresolve, lookup_of_resolve hresolve hb, isConstant_of_resolve hresolve hb⟩
  kept := by
    intro x name hother
    -- Neither the scopes searched nor the owner are concerned by the new binding.
    refine answersAlike_of_resolve (resolve_congr (chain_rebind _ _ _ _) fun y hy => ?_) ?_
    · rw [hasLocal_rebind_insert he hnew, if_neg]
      rintro ⟨rfl, hname⟩
      exact hother ⟨hname, hy⟩
    · intro owner howner
      rw [binding?_rebind_insert he hnew, if_neg]
      rintro ⟨rfl, hname⟩
      exact hother ⟨hname, (resolve_eq_ok_iff_searches.1 howner).1⟩
  hasLocal_before := by
    rw [hasLocal_eq, hnew]
    rfl
  hasLocal_eq := hasLocal_rebind_insert he hnew
  localSize_eq := by
    intro x
    by_cases hx : x = e
    · subst hx
      rw [localSize, localSize, bindings_rebind_self he, if_pos rfl, Bindings.size,
        Bindings.toList_insert hnew, List.length_cons, Bindings.size]
    · rw [localSize, localSize, bindings_rebind_of_ne hx, if_neg hx, Nat.add_zero]

/-! ## Assigning -/

/-- `hasLocal` is the same after another value is assigned. -/
theorem hasLocal_rebind_update (ho : s.Live owner) (x : ScopeId) (name' : String) :
    (s.rebind owner (·.update name value)).hasLocal x name' = s.hasLocal x name' := by
  rw [hasLocal_eq, hasLocal_eq, binding?_rebind_update ho]
  split
  · rw [Option.isSome_map]
  · rfl

/-- `resolve` is the same after another value is assigned. -/
theorem resolve_rebind_update (ho : s.Live owner) (x : ScopeId) (name' : String) :
    (s.rebind owner (·.update name value)).resolve x name' = s.resolve x name' :=
  resolve_congr (chain_rebind _ _ _ _) fun y _ => hasLocal_rebind_update ho y name'

/-- `Assigned`: another value is shown where the name stands for the binding, and nowhere else. -/
theorem assigned_rebind (hb : s.binding? owner name = some b) :
    s.Assigned (s.rebind owner (·.update name value)) owner name value := by
  have ho := live_of_binding? hb
  have hbinding := binding?_rebind_update ho name value
  have hresolve (x : ScopeId) (name' : String) :
      (s.rebind owner (·.update name value)).resolve x name' = s.resolve x name' :=
    resolve_rebind_update ho x name'
  -- Elsewhere the owner has kept its binding.
  have hkept {x : ScopeId} {name' : String}
      (hother : ¬ (name' = name ∧ s.resolve x name' = .ok owner)) :
      s.AnswersAlike (s.rebind owner (·.update name value)) x name' := by
    refine answersAlike_of_resolve (hresolve x name') fun o howner => ?_
    rw [hbinding, if_neg]
    rintro ⟨rfl, rfl⟩
    exact hother ⟨rfl, howner⟩
  -- Where the name stands for the binding, the owner has it with the other value.
  have hshown {x : ScopeId} (howner : s.resolve x name = .ok owner) :
      (s.rebind owner (·.update name value)).binding? owner name = some { b with value } := by
    rw [hbinding, if_pos ⟨rfl, rfl⟩, hb, Option.map_some]
  refine ⟨fun x name' => ?_, hresolve, fun x name' => ?_, hasLocal_rebind_update ho, fun x => ?_⟩
  · split
    next hboth =>
      obtain ⟨rfl, howner⟩ := hboth
      exact lookup_of_resolve ((hresolve x name').trans howner) (hshown howner)
    next hother => exact (hkept hother).lookup_eq
  · by_cases hboth : name' = name ∧ s.resolve x name' = .ok owner
    · obtain ⟨rfl, howner⟩ := hboth
      rw [isConstant_of_resolve howner hb,
        isConstant_of_resolve ((hresolve x name').trans howner) (hshown howner)]
    · exact (hkept hboth).isConstant_eq
  · by_cases hx : x = owner
    · rw [hx, localSize, bindings_rebind_self ho, Bindings.size_update, localSize]
    · rw [localSize, bindings_rebind_of_ne hx, localSize]

/-! ## Writes that succeed -/

/-- A declaration that succeeds is shown in its scope and in those inside it that declare the name
no nearer, and an assignment that succeeds is shown wherever the name stands for the same binding.
All other answers, from all scopes, are as before. -/
theorem effect_of_write (he : s.Live e) (name : String) (value : Value) :
    (∀ m v, (s.declare e name value m).1 = .ok v →
      v = value ∧ s.Declared (s.declare e name value m).2 e ⟨name, value, m⟩) ∧
    ∀ v, (s.assign e name value).1 = .ok v → v = value ∧
      ∃ owner, s.resolve e name = .ok owner ∧
        s.Assigned (s.assign e name value).2 owner name value := by
  constructor
  · intro m v hok
    rcases s.declare_cases e name value m with ⟨b, -, heq⟩ | ⟨hnew, heq⟩
    · rw [heq] at hok
      cases hok
    · rw [heq] at hok ⊢
      cases hok
      exact ⟨rfl, declared_rebind he hnew⟩
  · intro v hok
    rcases s.assign_cases e name value with ⟨failure, heq⟩ | ⟨owner, b, howner, hb, -, heq⟩
    · rw [heq] at hok
      cases hok
    · rw [heq] at hok ⊢
      cases hok
      exact ⟨rfl, owner, howner, assigned_rebind hb⟩

/-- Of three scopes, each inside the one before, the outermost one has declared `x`.  The middle one
declares it as well, or the innermost one assigns to it. -/
theorem effect_of_write_nested :
    let outer := (empty.addRoot.2.declare ⟨0⟩ "x" .null .mutable).2
    let s := ((outer.addChild ⟨0⟩).2.addChild ⟨1⟩).2
    let declared := (s.declare ⟨1⟩ "x" (.boolean true) .constant).2
    let assigned := (s.assign ⟨2⟩ "x" (.boolean true)).2
    s.Live ⟨1⟩ ∧ (s.declare ⟨1⟩ "x" (.boolean true) .constant).1 = .ok (.boolean true) ∧
      declared.resolve ⟨2⟩ "x" = .ok ⟨1⟩ ∧ declared.isConstant ⟨2⟩ "x" = .ok true ∧
      declared.lookup ⟨0⟩ "x" = .ok .null ∧ declared.localSize ⟨2⟩ = 0 ∧
      s.Live ⟨2⟩ ∧ (s.assign ⟨2⟩ "x" (.boolean true)).1 = .ok (.boolean true) ∧
      assigned.lookup ⟨1⟩ "x" = .ok (.boolean true) ∧ assigned.resolve ⟨2⟩ "x" = .ok ⟨0⟩ := by
  intro outer s declared assigned
  have hmiddle : s.Live ⟨1⟩ := by decide
  have hinner : s.Live ⟨2⟩ := by decide
  have hdeclare : (s.declare ⟨1⟩ "x" (.boolean true) .constant).1 = .ok (.boolean true) := by decide
  have hassign : (s.assign ⟨2⟩ "x" (.boolean true)).1 = .ok (.boolean true) := by decide
  obtain ⟨-, hd⟩ := (effect_of_write hmiddle "x" (.boolean true)).1 .constant _ hdeclare
  obtain ⟨-, owner, howner, ha⟩ := (effect_of_write hinner "x" (.boolean true)).2 _ hassign
  obtain ⟨hresolve, -, hconstant⟩ := hd.shown (by decide : s.Searches ⟨2⟩ "x" ⟨1⟩)
  have hroot : s.resolve ⟨2⟩ "x" = .ok ⟨0⟩ := by decide
  cases hroot.symm.trans howner
  refine ⟨hmiddle, hdeclare, hresolve, hconstant, ?_, ?_, hinner, hassign, ?_, ?_⟩
  · rw [(hd.kept (by decide : ¬ ("x" = "x" ∧ s.Searches ⟨0⟩ "x" ⟨1⟩))).lookup_eq]
    decide
  · rw [hd.localSize_eq]
    decide
  · rw [ha.lookup_eq, if_pos (by decide)]
  · rw [ha.resolve_eq, hroot]

end Store

end ScriptCore
