import ScriptCore.Proofs.Scope.Chain

/-!
# The owner of a name

A name stands for its binding in the owner: the innermost scope, from where the name is used
outwards, that declares it.  `Owns` says so about the scopes around each other, and not how the owner
is found.  `Answers` tells from it which operations on a name fail, with which error, and that those
that fail change nothing.

* `Held.resolve_cases`: one step of the search for the owner;
* `Held.resolve_eq_ok_iff_owns`, `Held.resolve_eq_error_iff_unknown`: the search ends with the owner,
  if there is one;
* `Held.answers`: this decides what every operation on a name answers.
-/

namespace ScriptCore.Store

/-- The second scope is the first one, or somewhere around it. -/
def Outward (s : Store) : ScopeId → ScopeId → Prop := Relation.ReflTransGen s.Inside

/-- No scope declares the name, from here outwards. -/
def Unknown (s : Store) (x : ScopeId) (name : String) : Prop :=
  ∀ y, s.Outward x y → s.hasLocal y name = false

/-- The owner declares the name, and every other scope that does so, from here outwards, is around
the owner. -/
structure Owns (s : Store) (x : ScopeId) (name : String) (owner : ScopeId) : Prop where
  outward : s.Outward x owner
  hasLocal : s.hasLocal owner name = true
  innermost : ∀ y, s.Outward x y → s.hasLocal y name = true → s.Outward owner y

/-- What the operations on a name answer in a scope.  The errors are told from the scopes that declare
the name and from the constants of its owner, and from nothing else. -/
structure Answers (s : Store) (x : ScopeId) (name : String) : Prop where
  /-- Only the scope itself can keep a name from being declared in it. -/
  declare_eq_error_iff : ∀ {value m e}, (s.declare x name value m).1 = .error e ↔
    s.hasLocal x name = true ∧ e = .duplicate name
  declare_eq_ok_iff : ∀ {value m v}, (s.declare x name value m).1 = .ok v ↔
    s.hasLocal x name = false ∧ v = value
  declare_unchanged : ∀ {value m e}, (s.declare x name value m).1 = .error e →
    (s.declare x name value m).2 = s
  /-- Only the owner can keep a name from being assigned to. -/
  assign_eq_error_iff : ∀ {value e}, (s.assign x name value).1 = .error e ↔
    (s.Unknown x name ∧ e = .unresolved name) ∨
    ((∃ owner, s.Owns x name owner ∧ name ∈ s.constants owner) ∧ e = .immutable name)
  assign_eq_ok_iff : ∀ {value v}, (s.assign x name value).1 = .ok v ↔
    (∃ owner, s.Owns x name owner ∧ name ∉ s.constants owner) ∧ v = value
  assign_unchanged : ∀ {value e}, (s.assign x name value).1 = .error e →
    (s.assign x name value).2 = s
  resolve_eq_ok_iff : ∀ {owner}, s.resolve x name = .ok owner ↔ s.Owns x name owner
  resolve_eq_error_iff : ∀ {e}, s.resolve x name = .error e ↔
    s.Unknown x name ∧ e = .unresolved name
  lookup_eq_error_iff : ∀ {e}, s.lookup x name = .error e ↔
    s.Unknown x name ∧ e = .unresolved name
  isConstant_eq_error_iff : ∀ {e}, s.isConstant x name = .error e ↔
    s.Unknown x name ∧ e = .unresolved name

variable {s : Store} {handles : Multiset ScopeId} {x y p owner owner' : ScopeId} {name : String}
  {value : Value} {e : BindingError}

/-! ## Outwards -/

/-- `Outward` begins with the scope itself or with the one around it. -/
theorem outward_iff : s.Outward x y ↔ y = x ∨ ∃ p, s.Inside x p ∧ s.Outward p y := by
  rw [Outward, Relation.ReflTransGen.cases_head_iff, eq_comm]

/-- `Outward` goes one way only. -/
theorem outward_of_inside (hp : s.Inside x p) (hy : s.Outward x y) : y = x ∨ s.Outward p y := by
  rcases outward_iff.1 hy with rfl | ⟨q, hq, houtward⟩
  · exact .inl rfl
  · cases Option.some.inj (hp.symm.trans hq)
    exact .inr houtward

/-- `Outward` leads to older scopes. -/
theorem Held.index_le_of_outward (h : s.Held handles) (hxy : s.Outward x y) :
    y.index ≤ x.index := by
  induction hxy with
  | refl => exact Nat.le_refl _
  | tail _ hp ih =>
    have := (h.of_inside hp).2.1
    omega

/-- `Owns` is true of one scope at most. -/
theorem Owns.unique (h : s.Held handles) (ho : s.Owns x name owner) (ho' : s.Owns x name owner') :
    owner = owner' := by
  have hle := h.index_le_of_outward (ho.innermost owner' ho'.outward ho'.hasLocal)
  have hle' := h.index_le_of_outward (ho'.innermost owner ho.outward ho.hasLocal)
  exact congrArg ScopeId.mk (Nat.le_antisymm hle' hle)

/-- `Owns.exists_iff`: what is said of some owner is said of the owner. -/
theorem Owns.exists_iff (h : s.Held handles) (ho : s.Owns x name owner) {P : ScopeId → Prop} :
    (∃ o, s.Owns x name o ∧ P o) ↔ P owner := by
  constructor
  · rintro ⟨o, ho', hP⟩
    rwa [ho.unique h ho']
  · exact fun hP => ⟨owner, ho, hP⟩

/-- `Unknown` names have no owner. -/
theorem Unknown.not_owns (hx : s.Unknown x name) : ¬ s.Owns x name owner := by
  intro ho
  cases (hx owner ho.outward).symm.trans ho.hasLocal

/-- `Owns` goes on to a scope inside that does not declare the name. -/
theorem Owns.inside (ho : s.Owns p name owner) (hp : s.Inside x p)
    (hlocal : s.hasLocal x name = false) : s.Owns x name owner where
  outward := outward_iff.2 (.inr ⟨p, hp, ho.outward⟩)
  hasLocal := ho.hasLocal
  innermost := by
    intro y hy hdeclares
    rcases outward_of_inside hp hy with rfl | hy
    · cases hlocal.symm.trans hdeclares
    · exact ho.innermost y hy hdeclares

/-- `Unknown` goes on to a scope inside that does not declare the name. -/
theorem Unknown.inside (hu : s.Unknown p name) (hp : s.Inside x p)
    (hlocal : s.hasLocal x name = false) : s.Unknown x name := by
  intro y hy
  rcases outward_of_inside hp hy with rfl | hy
  · exact hlocal
  · exact hu y hy

/-! ## The search -/

/-- `resolve` takes one step: it ends in the scope if this declares the name, it fails if nothing is
around the scope, and otherwise it goes on there. -/
theorem Held.resolve_cases (h : s.Held handles) (hx : s.Live x) (name : String) :
    (s.hasLocal x name = true ∧ s.resolve x name = .ok x) ∨
    (s.hasLocal x name = false ∧ s.parent? x = none ∧
      s.resolve x name = .error (.unresolved name)) ∨
    (s.hasLocal x name = false ∧ ∃ p, s.Inside x p ∧ s.Live p ∧
      s.resolve x name = s.resolve p name) := by
  rcases h.chain_cases hx with ⟨hnone, hchain⟩ | ⟨p, hp, hlive, -, hchain⟩
  all_goals
    cases hlocal : s.hasLocal x name with
    | true => simp [resolve, hchain, hlocal]
    | false => simp_all [resolve, Inside]

/-- `resolve` ends with the owner, or there is none. -/
theorem Held.exists_owner_or_unknown (h : s.Held handles) (hx : s.Live x) (name : String) :
    (∃ owner, s.resolve x name = .ok owner ∧ s.Owns x name owner) ∨
    (s.resolve x name = .error (.unresolved name) ∧ s.Unknown x name) := by
  -- The search goes on in older scopes, so ages carry the induction.
  induction hn : x.index using Nat.strongRecOn generalizing x with
  | ind n ih =>
    rcases h.resolve_cases hx name with ⟨hlocal, hresolve⟩ | ⟨hlocal, hnone, hresolve⟩ |
      ⟨hlocal, p, hp, hlive, hresolve⟩
    -- The scope itself declares the name; or nothing is around it; or the search goes on.
    · exact .inl ⟨x, hresolve, .refl, hlocal, fun y hy _ => hy⟩
    · refine .inr ⟨hresolve, fun y hy => ?_⟩
      rcases outward_iff.1 hy with rfl | ⟨p, hp, -⟩
      · exact hlocal
      · cases hnone.symm.trans hp
    · have hlt := (h.of_inside hp).2.1
      rw [hresolve]
      rcases ih p.index (hn ▸ hlt) hlive rfl with ⟨owner, howner, ho⟩ | ⟨herror, hu⟩
      · exact .inl ⟨owner, howner, ho.inside hp hlocal⟩
      · exact .inr ⟨herror, hu.inside hp hlocal⟩

/-- `resolve` finds the scope that `Owns` the name. -/
theorem Held.resolve_eq_ok_iff_owns (h : s.Held handles) (hx : s.Live x) :
    s.resolve x name = .ok owner ↔ s.Owns x name owner := by
  constructor
  · intro hresolve
    rcases h.exists_owner_or_unknown hx name with ⟨owner', hresolve', ho⟩ | ⟨herror, -⟩
    · cases hresolve.symm.trans hresolve'
      exact ho
    · cases hresolve.symm.trans herror
  · intro ho
    rcases h.exists_owner_or_unknown hx name with ⟨owner', hresolve, ho'⟩ | ⟨-, hu⟩
    · rw [hresolve, ho.unique h ho']
    · exact absurd ho hu.not_owns

/-- `resolve` fails for the names that are `Unknown`, and only with that error. -/
theorem Held.resolve_eq_error_iff_unknown (h : s.Held handles) (hx : s.Live x) :
    s.resolve x name = .error e ↔ s.Unknown x name ∧ e = .unresolved name := by
  rcases h.exists_owner_or_unknown hx name with ⟨owner, hresolve, ho⟩ | ⟨herror, hu⟩
  · rw [hresolve]
    simp only [reduceCtorEq, false_iff]
    exact fun hu => hu.1.not_owns ho
  · rw [herror, Except.error.injEq]
    exact ⟨fun heq => ⟨hu, heq.symm⟩, fun heq => heq.2.symm⟩

/-! ## Answers -/

/-- `lookupBinding` fails exactly if the name does not resolve. -/
theorem lookupBinding_eq_error_iff :
    s.lookupBinding x name = .error e ↔ s.resolve x name = .error e := by
  cases hresolve : s.resolve x name with
  | error e' =>
    rw [lookupBinding_of_unresolved hresolve]
    simp
  | ok owner =>
    obtain ⟨b, hb⟩ := exists_binding_of_resolve hresolve
    rw [lookupBinding_of_resolve hresolve hb]
    simp

/-- `constants` of a scope has a name that is bound there if it is bound as a constant. -/
theorem mem_constants_of_binding? {b : Binding} (hb : s.binding? owner name = some b) :
    name ∈ s.constants owner ↔ b.mutability = .constant := by
  simp [mem_constants, hb]

/-- `assign` answers what the mutability of the binding in the owner asks for. -/
theorem assign_fst_of_resolve (h : s.resolve x name = .ok owner) (value : Value) :
    (s.assign x name value).1 =
      if name ∈ s.constants owner then .error (.immutable name) else .ok value := by
  obtain ⟨b, hb⟩ := exists_binding_of_resolve h
  rw [assign_of_resolve h hb]
  simp only [mem_constants_of_binding? hb]
  cases b.mutability <;> rfl

/-- `Answers`: what the operations on a name answer is decided by its owner. -/
theorem Held.answers (h : s.Held handles) (hx : s.Live x) (name : String) : s.Answers x name where
  declare_eq_error_iff := by
    intro value m e
    rw [declare]
    cases s.hasLocal x name <;> simp [eq_comm]
  declare_eq_ok_iff := by
    intro value m v
    rw [declare]
    cases s.hasLocal x name <;> simp [eq_comm]
  declare_unchanged := by
    intro value m e herror
    rcases s.declare_cases x name value m with ⟨b, -, heq⟩ | ⟨-, heq⟩
    · rw [heq]
    · rw [heq] at herror
      cases herror
  assign_eq_error_iff := by
    intro value e
    rcases h.exists_owner_or_unknown hx name with ⟨owner, hresolve, ho⟩ | ⟨herror, hu⟩
    · have hknown : ¬ s.Unknown x name := fun hu => hu.not_owns ho
      rw [assign_fst_of_resolve hresolve, ho.exists_iff h]
      split <;> simp_all [eq_comm]
    · have hnone (o : ScopeId) : ¬ s.Owns x name o := hu.not_owns
      rw [assign_of_unresolved herror]
      simp [hu, hnone, eq_comm]
  assign_eq_ok_iff := by
    intro value v
    rcases h.exists_owner_or_unknown hx name with ⟨owner, hresolve, ho⟩ | ⟨herror, hu⟩
    · rw [assign_fst_of_resolve hresolve, ho.exists_iff h]
      split <;> simp_all [eq_comm]
    · have hnone (o : ScopeId) : ¬ s.Owns x name o := hu.not_owns
      rw [assign_of_unresolved herror]
      simp [hnone]
  assign_unchanged := by
    intro value e herror
    rcases s.assign_cases x name value with ⟨e', heq⟩ | ⟨owner, b, -, -, -, heq⟩
    · rw [heq]
    · rw [heq] at herror
      cases herror
  resolve_eq_ok_iff := h.resolve_eq_ok_iff_owns hx
  resolve_eq_error_iff := h.resolve_eq_error_iff_unknown hx
  lookup_eq_error_iff := by
    intro e
    rw [← h.resolve_eq_error_iff_unknown hx, ← lookupBinding_eq_error_iff, lookup]
    cases s.lookupBinding x name <;> simp [Except.map]
  isConstant_eq_error_iff := by
    intro e
    rw [← h.resolve_eq_error_iff_unknown hx, ← lookupBinding_eq_error_iff, isConstant]
    cases s.lookupBinding x name <;> simp [Except.map]

end ScriptCore.Store
