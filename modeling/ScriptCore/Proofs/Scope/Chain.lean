import Mathlib.Data.List.Nodup
import Mathlib.Logic.Relation
import ScriptCore.Proofs.Scope.Hold

/-!
# Scopes around scopes

The parent, the depth and the outermost scope of a scope are all read off its chain.  As long as the
account of holds is right, they are to each other what they are in a forest: `Forest` lists this, and
`Held.forest` assembles it.

The chain also stands in for two searches that go from scope to scope, `seekOwner` for a name and
`seekRoot` for the outermost scope.  Both are given the number of scopes that they may look at, and
`Held.seekOwner_depth` and `Held.seekRoot_depth` say that the depth of a scope is enough.
-/

namespace ScriptCore

/-- `Bindings.get?` finds the binding with the name, and there is only one. -/
theorem Bindings.get?_eq_some_iff {bs : Bindings} {name : String} {b : Binding} :
    bs.get? name = some b ↔ b ∈ bs.toList ∧ b.name = name := by
  constructor
  · intro h
    exact ⟨List.mem_of_find?_eq_some h, name_of_get? h⟩
  · rintro ⟨hb, rfl⟩
    have hfound : (bs.get? b.name).isSome := by
      rw [get?, List.find?_isSome]
      exact ⟨b, hb, beq_self_eq_true b.name⟩
    obtain ⟨b', hb'⟩ := Option.isSome_iff_exists.1 hfound
    -- Names differ, so what was found under the name is the binding itself.
    have hsame := List.inj_on_of_nodup_map bs.nodup (List.mem_of_find?_eq_some hb') hb
      (name_of_get? hb')
    rw [hb', hsame]

namespace Store

/-! ## Definitions -/

/-- The names of the constants that a scope itself declares. -/
def constants (s : Store) (id : ScopeId) : List String :=
  ((s.bindings id).toList.filter (·.mutability.isConstant)).map Binding.name

/-- The first scope is directly inside the second one. -/
def Inside (s : Store) (x p : ScopeId) : Prop := s.parent? x = some p

/-- Goes outwards from a scope, a number of times. -/
def climb (s : Store) : Nat → ScopeId → Option ScopeId
  | 0, x => some x
  | count + 1, x => (s.parent? x).bind (s.climb count)

/-- Looks outwards from a scope for one that declares a name, at as many scopes as are given.  If
they are not enough, there is no answer. -/
def seekOwner (s : Store) (name : String) : Nat → ScopeId → Option (Except BindingError ScopeId)
  | 0, _ => none
  | count + 1, x =>
    if s.hasLocal x name then some (.ok x)
    else
      match s.parent? x with
      | none => some (.error (.unresolved name))
      | some p => s.seekOwner name count p

/-- Looks outwards from a scope for one that nothing is around, at as many scopes as are given.  If
they are not enough, there is no answer. -/
def seekRoot (s : Store) : Nat → ScopeId → Option ScopeId
  | 0, _ => none
  | count + 1, x =>
    match s.parent? x with
    | none => some x
    | some p => s.seekRoot count p

/-- The scopes of a store are the nodes of a forest, and all that is asked about the scopes around
one can be found by going outwards in it. -/
structure Forest (s : Store) : Prop where
  live_of_inside : ∀ {x p}, s.Inside x p → s.Live x ∧ s.Live p
  acyclic : ∀ x, ¬ Relation.TransGen s.Inside x x
  depth_eq_one_iff : ∀ {x}, s.Live x → (s.depth x = 1 ↔ s.parent? x = none)
  depth_inside : ∀ {x p}, s.Inside x p → s.depth x = s.depth p + 1
  parent?_root : ∀ {x}, s.Live x → s.parent? (s.root x) = none
  climb_root : ∀ {x}, s.Live x → s.climb (s.depth x - 1) x = some (s.root x)
  /-- The scopes of one tree are those with the same outermost scope. -/
  root_eq_iff : ∀ {x y}, s.Live x → s.Live y →
    (s.root x = s.root y ↔ Relation.EqvGen s.Inside x y)
  seekRoot_depth : ∀ {x}, s.Live x → s.seekRoot (s.depth x) x = some (s.root x)
  seekOwner_depth : ∀ {x}, s.Live x → ∀ name,
    s.seekOwner name (s.depth x) x = some (s.resolve x name)

variable {s : Store} {handles : Multiset ScopeId} {x y p owner : ScopeId} {name : String}
  {b : Binding} {value : Value}

/-! ## Constants -/

/-- `constants` are the names that are bound as constants in the scope itself. -/
theorem mem_constants :
    name ∈ s.constants x ↔ ∃ b, s.binding? x name = some b ∧ b.mutability = .constant := by
  have hconstant (b : Binding) : b.mutability.isConstant = true ↔ b.mutability = .constant := by
    cases b.mutability <;> decide
  simp only [constants, List.mem_map, List.mem_filter, hconstant, binding?,
    Bindings.get?_eq_some_iff]
  constructor
  · rintro ⟨b, ⟨hb, hm⟩, hname⟩
    exact ⟨b, ⟨hb, hname⟩, hm⟩
  · rintro ⟨b, ⟨hb, hname⟩, hm⟩
    exact ⟨b, ⟨hb, hm⟩, hname⟩

/-- `lookup` answers what the owner has bound to the name. -/
theorem lookup_of_resolve (h : s.resolve x name = .ok owner) (hb : s.binding? owner name = some b) :
    s.lookup x name = .ok b.value := by
  rw [lookup, lookupBinding_of_resolve h hb]
  rfl

/-- `isConstant` answers whether the owner has bound the name as a constant. -/
theorem isConstant_of_resolve (h : s.resolve x name = .ok owner)
    (hb : s.binding? owner name = some b) : s.isConstant x name = .ok b.mutability.isConstant := by
  rw [isConstant, lookupBinding_of_resolve h hb]
  rfl

/-- `isConstant` holds of a name that is among the `constants` of its owner. -/
theorem isConstant_iff : s.isConstant x name = .ok true ↔
    ∃ owner, s.resolve x name = .ok owner ∧ name ∈ s.constants owner := by
  cases hresolve : s.resolve x name with
  -- A name that does not resolve is no constant of any scope.
  | error e =>
    rw [isConstant, lookupBinding_of_unresolved hresolve]
    simp [Except.map]
  | ok owner =>
    obtain ⟨b, hb⟩ := exists_binding_of_resolve hresolve
    rw [isConstant_of_resolve hresolve hb]
    simp only [Except.ok.injEq, exists_eq_left', mem_constants, hb, Option.some.injEq]
    cases b.mutability <;> decide

/-- `assign` to a name that resolves fails for constants only. -/
theorem assign_of_resolve (h : s.resolve x name = .ok owner) (hb : s.binding? owner name = some b)
    (value : Value) : (s.assign x name value).1 =
      if b.mutability.isConstant then .error (.immutable name) else .ok value := by
  cases hm : b.mutability with
  | constant =>
    rw [assign_of_constant h hb hm]
    rfl
  | mutable =>
    rw [assign_of_mutable h hb hm]
    rfl

/-! ## One step outwards -/

/-- `Inside` is about a scope that is there. -/
theorem Inside.live (h : s.Inside x p) : s.Live x := by
  by_contra hdead
  rw [Inside, parent?, chain, not_live_iff.1 hdead] at h
  cases h

/-- `chain` of a scope has only the scope, if nothing is around it, or goes on with that of the
scope around it. -/
theorem Held.chain_cases (h : s.Held handles) (hx : s.Live x) :
    (s.parent? x = none ∧ s.chain x = [x]) ∨
    ∃ p, s.Inside x p ∧ s.Live p ∧ p.index < x.index ∧ s.chain x = x :: s.chain p := by
  obtain ⟨scope, hget⟩ := live_iff.1 hx
  have hchain := chain_of_get? hget
  have hparent : s.parent? x = scope.parent? := by
    rw [parent?, hchain]
    rfl
  cases hp : scope.parent? with
  | none =>
    refine .inl ⟨hparent.trans hp, ?_⟩
    rw [hchain, List.head?_eq_none_iff.1 hp]
  | some p =>
    obtain ⟨hlinked, hlt⟩ := h.linked hget hp
    refine .inr ⟨p, hparent.trans hp, h.parent_live hget hp, hlt, ?_⟩
    rw [hchain, hlinked]

/-- What a scope is `Inside` of is there and older, and its chain is the rest of the chain. -/
theorem Held.of_inside (h : s.Held handles) (hp : s.Inside x p) :
    s.Live p ∧ p.index < x.index ∧ s.chain x = x :: s.chain p := by
  rcases h.chain_cases hp.live with ⟨hnone, -⟩ | ⟨q, hq, hlive, hlt, hchain⟩
  · rw [Inside, hnone] at hp
    cases hp
  · cases Option.some.inj (hp.symm.trans hq)
    exact ⟨hlive, hlt, hchain⟩

/-- Induction from the outermost scopes inwards. -/
@[elab_as_elim]
theorem Held.induction {motive : ScopeId → Prop} (h : s.Held handles)
    (outermost : ∀ x, s.parent? x = none → s.chain x = [x] → motive x)
    (inner : ∀ x p, s.Inside x p → s.chain x = x :: s.chain p → s.Live p → motive p → motive x)
    (x : ScopeId) (hx : s.Live x) : motive x := by
  -- The scope around a scope is older, so ages carry the induction.
  induction hn : x.index using Nat.strongRecOn generalizing x with
  | ind n ih =>
    rcases h.chain_cases hx with ⟨hnone, hchain⟩ | ⟨p, hp, hlive, hlt, hchain⟩
    · exact outermost x hnone hchain
    · exact inner x p hp hchain hlive (ih p.index (hn ▸ hlt) p hlive rfl)

/-! ## Depth -/

/-- `depth` of a scope that is there is at least one. -/
theorem depth_pos (hx : s.Live x) : 0 < s.depth x :=
  List.length_pos_of_mem (live_iff_mem_chain.1 hx)

/-- `depth` grows by one from the scope around to the scope inside. -/
theorem Held.depth_inside (h : s.Held handles) (hp : s.Inside x p) :
    s.depth x = s.depth p + 1 := by
  obtain ⟨-, -, hchain⟩ := h.of_inside hp
  rw [depth, hchain, List.length_cons, depth]

/-- `depth` is one for the scopes that nothing is around. -/
theorem Held.depth_eq_one_iff (h : s.Held handles) (hx : s.Live x) :
    s.depth x = 1 ↔ s.parent? x = none := by
  rcases h.chain_cases hx with ⟨hnone, hchain⟩ | ⟨p, hp, hlive, -⟩
  · rw [depth, hchain, hnone]
    simp
  -- The scope around has a depth of one at least, so the scope inside has more.
  · have hdepth := h.depth_inside hp
    have hpos := depth_pos hlive
    rw [Inside] at hp
    simp only [hp, reduceCtorEq, iff_false]
    omega

/-- `Inside` has no cycles, since the scopes around a scope are older. -/
theorem Held.acyclic (h : s.Held handles) (x : ScopeId) : ¬ Relation.TransGen s.Inside x x := by
  have holder {x p : ScopeId} (hp : Relation.TransGen s.Inside x p) : p.index < x.index := by
    induction hp with
    | single hp => exact (h.of_inside hp).2.1
    | tail _ hp ih => exact Nat.lt_trans (h.of_inside hp).2.1 ih
  exact fun hx => Nat.lt_irrefl _ (holder hx)

/-! ## The outermost scope -/

/-- `root` of a scope that nothing is around is the scope itself. -/
theorem root_of_chain (h : s.chain x = [x]) : s.root x = x := by
  rw [root, h]
  rfl

/-- `root` of a scope is that of the scope around it. -/
theorem Held.root_inside (h : s.Held handles) (hp : s.Inside x p) : s.root x = s.root p := by
  obtain ⟨hlive, -, hchain⟩ := h.of_inside hp
  have hne : s.chain p ≠ [] := List.ne_nil_of_mem (live_iff_mem_chain.1 hlive)
  rw [root, root, hchain, List.getLast?_cons_of_ne_nil hne, List.getLast?_eq_some_getLast hne]
  rfl

/-- `root` has nothing around it. -/
theorem Held.parent?_root (h : s.Held handles) (hx : s.Live x) : s.parent? (s.root x) = none := by
  refine h.induction (fun x hnone hchain => ?_) (fun x p hp _ _ ih => ?_) x hx
  · rw [root_of_chain hchain, hnone]
  · rw [h.root_inside hp, ih]

/-- `climb` gets from a scope to its `root` in one step less than the depth. -/
theorem Held.climb_root (h : s.Held handles) (hx : s.Live x) :
    s.climb (s.depth x - 1) x = some (s.root x) := by
  refine h.induction (fun x hnone hchain => ?_) (fun x p hp _ hlive ih => ?_) x hx
  · rw [root_of_chain hchain, depth, hchain]
    rfl
  · -- One step leads to the scope around, which is one scope nearer to the outermost.
    have hpos := depth_pos hlive
    have hdepth : s.depth x - 1 = (s.depth p - 1) + 1 := by
      rw [h.depth_inside hp]
      omega
    rw [hdepth, climb, hp, Option.bind_some, ih, h.root_inside hp]

/-- `root` is of the same tree as the scope. -/
theorem Held.connected_root (h : s.Held handles) (hx : s.Live x) :
    Relation.EqvGen s.Inside x (s.root x) := by
  refine h.induction (fun x hnone hchain => ?_) (fun x p hp _ _ ih => ?_) x hx
  · rw [root_of_chain hchain]
    exact .refl x
  · rw [h.root_inside hp]
    exact .trans _ _ _ (.rel _ _ hp) ih

/-- `root` is the same for scopes that are connected, and for no others. -/
theorem Held.root_eq_iff (h : s.Held handles) (hx : s.Live x) (hy : s.Live y) :
    s.root x = s.root y ↔ Relation.EqvGen s.Inside x y := by
  constructor
  · intro hroot
    have hfirst := h.connected_root hx
    rw [hroot] at hfirst
    exact .trans _ _ _ hfirst (.symm _ _ (h.connected_root hy))
  · intro hconnected
    clear hx hy
    -- Each step between a scope and the one around it keeps the outermost scope.
    induction hconnected with
    | rel x p hp => exact h.root_inside hp
    | refl x => rfl
    | symm x y _ ih => exact ih.symm
    | trans x y z _ _ ihxy ihyz => exact ihxy.trans ihyz

/-! ## Searches -/

/-- `seekRoot` finds the outermost scope if it may look at as many scopes as the depth says. -/
theorem Held.seekRoot_depth (h : s.Held handles) (hx : s.Live x) :
    s.seekRoot (s.depth x) x = some (s.root x) := by
  refine h.induction (fun x hnone hchain => ?_) (fun x p hp _ _ ih => ?_) x hx
  · rw [root_of_chain hchain, depth, hchain, List.length_singleton, seekRoot, hnone]
  · have hstep := hp
    rw [Inside] at hstep
    rw [h.depth_inside hp, seekRoot, hstep, h.root_inside hp]
    exact ih

/-- `seekOwner` answers what `resolve` answers if it may look at as many scopes as the depth says.
-/
theorem Held.seekOwner_depth (h : s.Held handles) (hx : s.Live x) (name : String) :
    s.seekOwner name (s.depth x) x = some (s.resolve x name) := by
  refine h.induction (fun x hnone hchain => ?_) (fun x p hp hchain _ ih => ?_) x hx
  · rw [depth, resolve, hchain, List.length_singleton, seekOwner, hnone, List.find?_singleton]
    by_cases hlocal : s.hasLocal x name = true
    · rw [if_pos hlocal, if_pos hlocal]
    · rw [if_neg hlocal, if_neg hlocal]
  -- A scope inside another one looks at itself first and then leaves it to the one around.
  · have hstep := hp
    rw [Inside] at hstep
    rw [h.depth_inside hp, seekOwner, hstep, resolve, hchain, List.find?_cons]
    by_cases hlocal : s.hasLocal x name = true
    · rw [if_pos hlocal, hlocal]
    · rw [if_neg hlocal, eq_false_of_ne_true hlocal]
      exact ih

/-! ## The forest -/

/-- `Held` makes the scopes the nodes of a `Forest`. -/
theorem Held.forest (h : s.Held handles) : s.Forest where
  live_of_inside := fun hp => ⟨hp.live, (h.of_inside hp).1⟩
  acyclic := h.acyclic
  depth_eq_one_iff := h.depth_eq_one_iff
  depth_inside := h.depth_inside
  parent?_root := h.parent?_root
  climb_root := h.climb_root
  root_eq_iff := h.root_eq_iff
  seekRoot_depth := h.seekRoot_depth
  seekOwner_depth := h.seekOwner_depth

end Store

end ScriptCore
