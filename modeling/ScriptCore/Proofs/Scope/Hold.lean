import Mathlib.Algebra.Order.Group.Multiset
import Mathlib.Tactic.Abel
import ScriptCore.Proofs.Scope.Store

/-!
# Who holds a scope

A scope is held by handles and by the living scopes directly inside it, and `Scope.holds` counts
them.  `Held` says that the count is right for a given multiset of handles, that no scope is there
without a hold, and that the scopes around a scope are there, in the order in which they were made.

* `Held.add`, `Held.remove`: a scope that comes takes over holds on the scope around it, and one that
  goes gives them back;
* `Held.retain`, `Held.addRoot`, `Held.addChild`, `Held.release`, `Held.rebind`: every change of a
  store keeps the account right;
* `Held.live_of_mem_chain`: the scopes around a living scope are alive;
* `Within`: what `retain` and `release` leave is as it was.
-/

namespace ScriptCore

/-- The scope directly around a scope. -/
def Scope.parent? (scope : Scope) : Option ScopeId := scope.enclosing.head?

/-- The hold of a scope on the scope directly around it, if there is one. -/
def Scope.parentHold (scope : Scope) : Multiset ScopeId := scope.parent?.toList

namespace Store

/-- The scopes that are held from inside, once for each living scope directly inside them. -/
def parents (s : Store) : Multiset ScopeId :=
  s.scopes.toList.filterMap fun place => place.bind Scope.parent?

/-- The holds on the scopes are those of the given handles and of the scopes inside. -/
structure Held (s : Store) (handles : Multiset ScopeId) : Prop where
  /-- Handles are to living scopes. -/
  live : ∀ id ∈ handles, s.Live id
  /-- Holds are counted. -/
  counted : ∀ {id scope}, s.get? id = some scope → scope.holds = (handles + s.parents).count id
  /-- A scope that nothing holds is not there. -/
  positive : ∀ {id scope}, s.get? id = some scope → 0 < scope.holds
  /-- The scopes around a scope are the chain of the one directly around it, which is older. -/
  linked : ∀ {id scope p}, s.get? id = some scope → scope.parent? = some p →
    s.chain p = scope.enclosing ∧ p.index < id.index

variable {s : Store} {id x p : ScopeId} {scope : Scope} {handles : Multiset ScopeId}

/-! ## Holds from inside -/

/-- `List.modify` changes one place and its part of what `filterMap` gives. -/
theorem filterMap_modify {α β : Type} (g : α → Option β) (f : α → α) {l : List α} {i : Nat}
    {a : α} (h : l[i]? = some a) :
    ((l.modify i f).filterMap g : Multiset β) + ((g a).toList : Multiset β) =
      (l.filterMap g : Multiset β) + ((g (f a)).toList : Multiset β) := by
  obtain ⟨hi, ha⟩ := List.getElem?_eq_some_iff.1 h
  have hbefore : l = l.take i ++ a :: l.drop (i + 1) := by
    rw [← ha, List.getElem_cons_drop, List.take_append_drop]
  have hafter : l.modify i f = l.take i ++ f a :: l.drop (i + 1) := by
    rw [List.modify_eq_take_cons_drop hi, ha]
  have hone (b : α) : List.filterMap g (l.take i ++ b :: l.drop (i + 1)) =
      (l.take i).filterMap g ++ ((g b).toList ++ (l.drop (i + 1)).filterMap g) := by
    rw [List.filterMap_append]
    cases hb : g b <;> simp [hb]
  have hl : l.filterMap g =
      (l.take i).filterMap g ++ ((g a).toList ++ (l.drop (i + 1)).filterMap g) := by
    rw [← hone, ← hbefore]
  rw [hafter, hone, hl]
  simp only [← Multiset.coe_add]
  abel

/-- `Multiset.count` of what the filled places give is found by going through all places. -/
theorem count_filterMap {α β : Type} [DecidableEq β] (g : Option α → Option β)
    (places : Array (Option α)) (b : β) : (places.toList.filterMap g : Multiset β).count b =
      ((List.range places.size).filter fun i => g places[i]?.join = some b).length := by
  have hplaces : places.toList = (List.range places.size).map fun i => places[i]?.join := by
    apply List.ext_getElem
    · simp
    · intro i hi hi'
      rw [Array.length_toList] at hi
      simp [Array.getElem?_eq_getElem hi]
  rw [Multiset.coe_count, List.count_filterMap, hplaces, List.countP_map,
    ← List.countP_eq_length_filter]
  congr 1
  funext i
  exact beq_eq_decide _ _

/-- A scope of `get?` stands in the list of places. -/
private theorem getElem?_of_get? (h : s.get? id = some scope) :
    s.scopes.toList[id.index]? = some (some scope) := by
  rw [get?, Option.join_eq_some_iff] at h
  rw [Array.getElem?_toList, h]

/-- `parents` are left by a change that leaves a scope in its place. -/
theorem parents_modify {f : Scope → Scope} (hf : ∀ scope, (f scope).parent? = scope.parent?)
    (s : Store) (id : ScopeId) : (s.modify id f).parents = s.parents := by
  rw [parents, parents, modify, Array.toList_modify]
  cases h : s.scopes.toList[id.index]? with
  | none =>
    rw [List.modify_eq_self (List.getElem?_eq_none_iff.1 h)]
  | some place =>
    have hsame : (Option.map f place).bind Scope.parent? = place.bind Scope.parent? := by
      cases place with
      | none => rfl
      | some scope => exact hf scope
    have hmodify := filterMap_modify (fun place => Option.bind place Scope.parent?) (Option.map f) h
    rw [hsame] at hmodify
    exact add_right_cancel hmodify

/-- `remove` takes the hold of the scope that goes off the `parents`. -/
theorem parents_remove (h : s.get? id = some scope) :
    scope.parentHold + (s.remove id).parents = s.parents := by
  have hmodify := filterMap_modify (fun place => Option.bind place Scope.parent?)
    (fun _ => none) (getElem?_of_get? h)
  rw [parents, parents, remove, Array.toList_modify, add_comm, Scope.parentHold]
  simpa using hmodify

/-- `add` puts the hold of the scope that comes on the `parents`. -/
theorem parents_add (s : Store) (scope : Scope) :
    (s.add scope).2.parents = scope.parentHold + s.parents := by
  rw [parents, parents, add, Array.toList_push, List.filterMap_append, ← Multiset.coe_add, add_comm]
  congr 1

/-- `parents` are the scopes around living scopes. -/
theorem mem_parents : p ∈ s.parents ↔ ∃ id scope, s.get? id = some scope ∧ scope.parent? = some p := by
  rw [parents, Multiset.mem_coe, List.mem_filterMap]
  constructor
  · rintro ⟨place, hplace, hp⟩
    obtain ⟨i, hi⟩ := List.mem_iff_getElem?.1 hplace
    obtain ⟨scope, rfl, hscope⟩ := Option.bind_eq_some_iff.1 hp
    refine ⟨⟨i⟩, scope, ?_, hscope⟩
    rw [get?, ← Array.getElem?_toList, hi]
    rfl
  · rintro ⟨id, scope, hget, hp⟩
    exact ⟨some scope, List.mem_of_getElem? (getElem?_of_get? hget), hp⟩

/-! ## The account -/

/-- `parent?` of a living scope is alive. -/
theorem Held.parent_live (h : s.Held handles) (hget : s.get? id = some scope)
    (hp : scope.parent? = some p) : s.Live p := by
  rw [live_iff_mem_chain, (h.linked hget hp).1]
  exact List.mem_of_mem_head? hp

/-- A scope with a hold is there: a handle or a scope inside keeps it. -/
theorem Held.live_of_mem (h : s.Held handles) (hmem : id ∈ handles + s.parents) : s.Live id := by
  rcases Multiset.mem_add.1 hmem with hhandle | hparent
  · exact h.live id hhandle
  · obtain ⟨x, scope, hget, hp⟩ := mem_parents.1 hparent
    exact h.parent_live hget hp

/-- `chain` of a living scope has living scopes only.  They are older, which carries the induction.
-/
theorem Held.live_of_mem_chain (h : s.Held handles) : x ∈ s.chain id → s.Live x := by
  induction hn : id.index using Nat.strongRecOn generalizing id with
  | ind n ih =>
    intro hx
    cases hget : s.get? id with
    | none =>
      rw [chain, hget] at hx
      cases hx
    | some scope =>
      rw [chain_of_get? hget] at hx
      rcases List.mem_cons.1 hx with rfl | hx
      · exact live_of_get? hget
      -- The rest of the chain is that of the scope around.
      · cases hp : scope.parent? with
        | none =>
          rw [List.head?_eq_none_iff.1 hp] at hx
          cases hx
        | some p =>
          obtain ⟨hchain, hlt⟩ := h.linked hget hp
          rw [← hchain] at hx
          exact ih p.index (hn ▸ hlt) rfl hx

/-- `modify` keeps the account right if it leaves every scope in its place and the counts are right.
-/
theorem Held.modify (h : s.Held handles) {f : Scope → Scope}
    (hf : ∀ scope, (f scope).enclosing = scope.enclosing) {handles' : Multiset ScopeId}
    (hlive : ∀ x ∈ handles', s.Live x)
    (hcount : ∀ {x scope}, s.get? x = some scope →
      (if x = id then f scope else scope).holds = (handles' + s.parents).count x ∧
      0 < (if x = id then f scope else scope).holds) :
    (s.modify id f).Held handles' := by
  have hparents : (s.modify id f).parents = s.parents :=
    parents_modify (fun scope => by rw [Scope.parent?, hf, Scope.parent?]) s id
  refine ⟨fun x hx => live_modify.2 (hlive x hx), ?_, ?_, ?_⟩
  -- Counts are given, and the links are those of before.
  · intro x scope hget
    obtain ⟨before, hbefore, rfl⟩ := exists_of_get?_modify hget
    rw [hparents]
    exact (hcount hbefore).1
  · intro x scope hget
    obtain ⟨before, hbefore, rfl⟩ := exists_of_get?_modify hget
    exact (hcount hbefore).2
  · intro x scope p hget hp
    obtain ⟨before, hbefore, rfl⟩ := exists_of_get?_modify hget
    have hsame : (if x = id then f before else before).enclosing = before.enclosing := by
      split
      · exact hf before
      · rfl
    rw [Scope.parent?, hsame] at hp
    rw [chain_modify hf, hsame]
    exact h.linked hbefore hp

/-- `rebind` is not about the account. -/
theorem Held.rebind (h : s.Held handles) (id : ScopeId) (f : Bindings → Bindings) :
    (s.rebind id f).Held handles := by
  refine h.modify ?_ h.live ?_
  · exact fun _ => rfl
  · intro x scope hget
    have hsame : (if x = id then { scope with bindings := f scope.bindings } else scope).holds =
        scope.holds := by
      split <;> rfl
    rw [hsame]
    exact ⟨h.counted hget, h.positive hget⟩

/-- `retain` makes one more handle. -/
theorem Held.retain (h : s.Held handles) (hlive : s.Live id) :
    (s.retain id).Held (id ::ₘ handles) := by
  refine h.modify ?_ ?_ ?_
  · exact fun _ => rfl
  · intro x hx
    rcases Multiset.mem_cons.1 hx with rfl | hx
    · exact hlive
    · exact h.live x hx
  · intro x scope hget
    have hcounted := h.counted hget
    have hpositive := h.positive hget
    rw [Multiset.cons_add, Multiset.count_cons]
    -- Only the scope itself has one more hold.
    by_cases hx : x = id
    · rw [if_pos hx, if_pos hx]
      exact ⟨by rw [hcounted], Nat.succ_pos _⟩
    · rw [if_neg hx, if_neg hx]
      exact ⟨hcounted, hpositive⟩

/-- `add` makes a scope that takes over a hold on the scope around it. -/
theorem Held.add (h : s.Held (scope.parentHold + handles)) (hholds : scope.holds = 1)
    (hlinked : ∀ {p}, scope.parent? = some p → s.chain p = scope.enclosing) :
    (s.add scope).2.Held ((s.add scope).1 ::ₘ handles) := by
  have hnew := not_live_add s scope
  have hget (x : ScopeId) := get?_add s scope x
  have hparents := parents_add s scope
  have hindex : (s.add scope).1.index = s.scopes.size := rfl
  generalize (s.add scope).1 = new at *
  generalize (s.add scope).2 = s' at *
  have hold {x : ScopeId} (hx : s.Live x) : x ≠ new ∧ s'.get? x = s.get? x := by
    have hne : x ≠ new := fun heq => hnew (heq ▸ hx)
    exact ⟨hne, by rw [hget, if_neg hne]⟩
  have hcount (x : ScopeId) : (new ::ₘ handles + s'.parents).count x =
      (scope.parentHold + handles + s.parents).count x + if x = new then 1 else 0 := by
    rw [hparents, Multiset.cons_add, Multiset.count_cons, add_left_comm, add_assoc]
  refine ⟨?_, ?_, ?_, ?_⟩
  -- Handles are to the new scope or to one that was there.
  · intro x hx
    rw [Live, hget]
    rcases Multiset.mem_cons.1 hx with rfl | hx
    · rw [if_pos rfl]
      rfl
    · have hlive := h.live x (Multiset.mem_add.2 (.inr hx))
      rw [if_neg (hold hlive).1]
      exact hlive
  · intro x found hfound
    rw [hget] at hfound
    rw [hcount]
    split at hfound
    next hx =>
      cases hfound
      -- Nothing held the new scope before.
      have hzero : (scope.parentHold + handles + s.parents).count x = 0 :=
        Multiset.count_eq_zero_of_notMem fun hmem => hnew (hx ▸ h.live_of_mem hmem)
      rw [hzero, if_pos hx, hholds]
    next hx => rw [h.counted hfound, if_neg hx, add_zero]
  · intro x found hfound
    rw [hget] at hfound
    split at hfound
    · cases hfound
      omega
    · exact h.positive hfound
  -- The scope around was there before, so its number is less than the new one.
  · intro x found p hfound hp
    have hlinks : s.chain p = found.enclosing ∧ p.index < x.index := by
      rw [hget] at hfound
      split at hfound
      next hx =>
        cases hfound
        have hmem : p ∈ scope.parentHold + handles := by
          rw [Scope.parentHold, hp]
          simp
        have hlt := (h.live p hmem).index_lt
        exact ⟨hlinked hp, by rw [hx, hindex]; exact hlt⟩
      next hx => exact h.linked hfound hp
    have hlive : s.Live p := by
      rw [live_iff_mem_chain, hlinks.1]
      exact List.mem_of_mem_head? hp
    rw [chain, (hold hlive).2]
    exact hlinks

/-- `remove` gives back the hold of the scope on the one around it. -/
theorem Held.remove (h : s.Held (id ::ₘ handles)) (hget : s.get? id = some scope)
    (hlast : scope.holds ≤ 1) : (s.remove id).Held (scope.parentHold + handles) := by
  have hcounted := h.counted hget
  rw [Multiset.cons_add, Multiset.count_cons_self] at hcounted
  -- The one hold is that of the handle, so no other handle and no scope inside holds it.
  have hnone : id ∉ handles + s.parents := by
    rw [← Multiset.count_eq_zero]
    omega
  have hkept {x : ScopeId} {found : Scope} (hfound : (s.remove id).get? x = some found) :
      x ≠ id ∧ s.get? x = some found := by
    rw [get?_remove] at hfound
    split at hfound
    next => cases hfound
    next hx => exact ⟨hx, hfound⟩
  have hlive {x : ScopeId} (hx : x ≠ id) (hold : s.Live x) : (s.remove id).Live x := by
    rw [Live, get?_remove, if_neg hx]
    exact hold
  refine ⟨?_, ?_, ?_, ?_⟩
  · intro x hx
    have hmem : x ∈ handles + s.parents := by
      rw [← parents_remove hget]
      rcases Multiset.mem_add.1 hx with hx | hx <;> simp [hx]
    refine hlive (fun heq => hnone (heq ▸ hmem)) (h.live_of_mem ?_)
    rw [Multiset.cons_add]
    exact Multiset.mem_cons_of_mem hmem
  · intro x found hfound
    obtain ⟨hx, hfound⟩ := hkept hfound
    rw [h.counted hfound, Multiset.cons_add, Multiset.count_cons_of_ne hx, ← parents_remove hget,
      add_assoc, add_left_comm]
  · intro x found hfound
    exact h.positive (hkept hfound).2
  · intro x found p hfound hp
    obtain ⟨-, hfound⟩ := hkept hfound
    have hmem : p ∈ handles + s.parents :=
      Multiset.mem_add.2 (.inr (mem_parents.2 ⟨x, found, hfound, hp⟩))
    have hpid : p ≠ id := fun heq => hnone (heq ▸ hmem)
    rw [chain, get?_remove, if_neg hpid]
    exact h.linked hfound hp

/-! ## Creating, holding and releasing -/

/-- `empty` has no scopes and no handles. -/
theorem held_empty : empty.Held 0 := by
  have hnone (x : ScopeId) : empty.get? x = none := rfl
  refine ⟨fun x hx => absurd hx (Multiset.notMem_zero x), ?_, ?_, ?_⟩
  · intro x scope hget
    cases hget
  · intro x scope hget
    cases hget
  · intro x scope p hget
    cases hget

/-- `addRoot` makes a scope with one handle. -/
theorem Held.addRoot (h : s.Held handles) :
    s.addRoot.2.Held (s.addRoot.1 ::ₘ handles) := by
  refine Held.add ?_ rfl ?_
  · exact (zero_add handles).symm ▸ h
  · intro p hp
    cases hp

/-- `addChild` makes a scope with one handle, which holds the one around it. -/
theorem Held.addChild (h : s.Held handles) (hlive : s.Live id) :
    (s.addChild id).2.Held ((s.addChild id).1 ::ₘ handles) := by
  obtain ⟨scope, hget⟩ := live_iff.1 hlive
  have hchain := chain_of_get? hget
  have hparent : Scope.parentHold ⟨.empty, s.chain id, 1⟩ = {id} := by
    rw [Scope.parentHold, Scope.parent?, hchain]
    rfl
  refine Held.add ?_ rfl ?_
  · rw [hparent, Multiset.singleton_add]
    exact h.retain hlive
  · intro p hp
    have hp : (s.chain id).head? = some p := hp
    rw [hchain] at hp
    cases hp
    exact chain_retain s id id

/-- `release` gives up a hold on a scope that something else holds, or on one that goes with it.  A
scope that goes hands its hold on the scope around it over to be given up next. -/
theorem Held.release_cases (h : s.Held (id ::ₘ handles)) : ∃ scope, s.get? id = some scope ∧
    ((1 < scope.holds ∧
        s.release id = s.modify id fun scope => { scope with holds := scope.holds - 1 }) ∨
      (scope.holds = 1 ∧ scope.parent? = none ∧ s.release id = s.remove id) ∨
      (scope.holds = 1 ∧ ∃ p, scope.parent? = some p ∧ p.index < id.index ∧
        s.chain id = id :: (s.remove id).chain p ∧ (s.remove id).Held (p ::ₘ handles) ∧
        s.release id = (s.remove id).release p)) := by
  obtain ⟨scope, hget⟩ := live_iff.1 (h.live id (Multiset.mem_cons_self id handles))
  refine ⟨scope, hget, ?_⟩
  have hchain := chain_of_get? hget
  rw [Store.release, hchain, releaseChain, hget]
  dsimp only
  -- More holds are left, or this was the last one.
  obtain hmore | hlast := Nat.lt_or_ge 1 scope.holds
  · exact .inl ⟨hmore, if_neg hmore.not_ge⟩
  · have hone : scope.holds = 1 := Nat.le_antisymm hlast (h.positive hget)
    rw [if_pos hlast]
    right
    cases hp : scope.parent? with
    | none =>
      rw [List.head?_eq_none_iff.1 hp]
      exact .inl ⟨hone, rfl, rfl⟩
    | some p =>
      obtain ⟨hlinked, hlt⟩ := h.linked hget hp
      have hremoved := h.remove hget hlast
      rw [Scope.parentHold, hp] at hremoved
      have hheld : (s.remove id).Held (p ::ₘ handles) := by
        rwa [← Multiset.singleton_add]
      -- The chain of the scope around is the rest of the chain.
      have hne : p ≠ id := fun heq => Nat.lt_irrefl _ (heq ▸ hlt)
      have hrest : (s.remove id).chain p = scope.enclosing := by
        rw [chain, get?_remove, if_neg hne]
        exact hlinked
      rw [← hrest]
      exact .inr ⟨hone, p, rfl, hlt, rfl, hheld, rfl⟩

/-- `release` gives up a handle and keeps the account right, also when scopes go with it. -/
theorem Held.release (h : s.Held (id ::ₘ handles)) : (s.release id).Held handles := by
  -- A scope that goes hands its hold on to an older one.
  induction hn : id.index using Nat.strongRecOn generalizing s id with
  | ind n ih =>
    obtain ⟨scope, hget, hcases⟩ := h.release_cases
    obtain ⟨hmore, hrelease⟩ | ⟨hone, hp, hrelease⟩ | ⟨-, p, -, hlt, -, hheld, hrelease⟩ := hcases
    · rw [hrelease]
      refine h.modify ?_ ?_ ?_
      · exact fun _ => rfl
      · exact fun x hx => h.live x (Multiset.mem_cons_of_mem hx)
      · intro x found hfound
        -- The count of one scope goes down with the handle.
        have hcounted := h.counted hfound
        have hpositive := h.positive hfound
        rw [Multiset.cons_add, Multiset.count_cons] at hcounted
        split
        next hx =>
          rw [hx, hget] at hfound
          cases hfound
          rw [if_pos hx] at hcounted
          dsimp only
          omega
        next hx =>
          rw [if_neg hx] at hcounted
          exact ⟨hcounted, hpositive⟩
    · have hremoved := h.remove hget hone.le
      rw [Scope.parentHold, hp] at hremoved
      rw [hrelease]
      exact (zero_add handles) ▸ hremoved
    · rw [hrelease]
      exact ih p.index (hn ▸ hlt) hheld rfl

/-! ## What stays -/

/-- Every scope of the first store is in the second, with the same bindings and the same scopes
around it. -/
structure Within (s' s : Store) : Prop where
  size_eq : s'.scopes.size = s.scopes.size
  kept : ∀ {id scope}, s'.get? id = some scope → ∃ before, s.get? id = some before ∧
    scope.bindings = before.bindings ∧ scope.enclosing = before.enclosing

variable {s' s'' : Store}

/-- `Within` holds between a store and itself. -/
theorem Within.refl (s : Store) : s.Within s := ⟨rfl, fun h => ⟨_, h, rfl, rfl⟩⟩

/-- `Within` goes on from store to store. -/
theorem Within.trans (h₁ : s''.Within s') (h₂ : s'.Within s) : s''.Within s := by
  refine ⟨h₁.size_eq.trans h₂.size_eq, ?_⟩
  intro id scope hget
  obtain ⟨between, hbetween, hbindings, henclosing⟩ := h₁.kept hget
  obtain ⟨before, hbefore, hbindings', henclosing'⟩ := h₂.kept hbetween
  exact ⟨before, hbefore, hbindings.trans hbindings', henclosing.trans henclosing'⟩

/-- `Within` has no scope that was not there. -/
theorem Within.live (h : s'.Within s) (hlive : s'.Live id) : s.Live id := by
  obtain ⟨scope, hget⟩ := live_iff.1 hlive
  obtain ⟨before, hbefore, -⟩ := h.kept hget
  exact live_of_get? hbefore

/-- `Within` keeps the chains. -/
theorem Within.chain_eq (h : s'.Within s) (hlive : s'.Live id) : s'.chain id = s.chain id := by
  obtain ⟨scope, hget⟩ := live_iff.1 hlive
  obtain ⟨before, hbefore, -, henclosing⟩ := h.kept hget
  rw [chain_of_get? hget, chain_of_get? hbefore, henclosing]

/-- `Within` keeps the bindings. -/
theorem Within.bindings_eq (h : s'.Within s) (hlive : s'.Live id) :
    s'.bindings id = s.bindings id := by
  obtain ⟨scope, hget⟩ := live_iff.1 hlive
  obtain ⟨before, hbefore, hbindings, -⟩ := h.kept hget
  rw [bindings_of_get? hget, bindings_of_get? hbefore, hbindings]

/-- `Within` keeps what a name is bound to in a scope. -/
theorem Within.binding?_eq (h : s'.Within s) (hlive : s'.Live id) (name : String) :
    s'.binding? id name = s.binding? id name := by
  rw [binding?, h.bindings_eq hlive, binding?]

/-- `modify` changes nothing else if it only counts holds. -/
theorem within_recount (s : Store) (id : ScopeId) (count : Scope → Nat) :
    (s.modify id fun scope => { scope with holds := count scope }).Within s := by
  refine ⟨Array.size_modify, ?_⟩
  intro x scope hget
  obtain ⟨before, hbefore, rfl⟩ := exists_of_get?_modify hget
  refine ⟨before, hbefore, ?_⟩
  split <;> exact ⟨rfl, rfl⟩

/-- `retain` only counts. -/
theorem within_retain (s : Store) (id : ScopeId) : (s.retain id).Within s :=
  within_recount s id fun scope => scope.holds + 1

/-- `remove` only takes a scope away. -/
theorem within_remove (s : Store) (id : ScopeId) : (s.remove id).Within s := by
  refine ⟨Array.size_modify, ?_⟩
  intro x scope hget
  rw [get?_remove] at hget
  split at hget
  · cases hget
  · exact ⟨scope, hget, rfl, rfl⟩

/-- `release` leaves what is still there as it was. -/
theorem within_release (s : Store) (id : ScopeId) : (s.release id).Within s := by
  rw [release]
  induction s.chain id generalizing s with
  | nil => exact Within.refl s
  | cons first outer ih =>
    rw [releaseChain]
    -- Each scope of the chain is removed or only counted.
    split
    next scope hget =>
      split
      · exact (ih (s.remove first)).trans (within_remove s first)
      · exact within_recount s first fun scope => scope.holds - 1
    next => exact Within.refl s

end Store

end ScriptCore
