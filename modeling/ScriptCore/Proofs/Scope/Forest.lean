import Mathlib.Logic.Relation
import ScriptCore.Proofs.Scope.Change
import ScriptCore.Proofs.Scope.Representation

/-!
# Memory is a forest

Nothing in a `Heap` says that the names of constants are names at all, that a handle to a scope leads
to one, or that a depth is a number of scopes: three tables, links and numbers are put down next to
each other.  `Forest` says that they agree, and `Keeps` what the operations never change.  Both are
proved of the heaps that represent a store with right holds.

* `Represents.forest`: the constants are among the names, the links are those of a forest, the depths
  are right, and so the loops of `Heap.root` and `Heap.resolve` end in time;
* `Represents.keeps`: links, depths and names stay.
-/

namespace ScriptCore

namespace Heap

/-! ## Definitions -/

/-- The scope that the handle in a scope is to. -/
def outer? (h : Heap) (x : ScopeId) : Option ScopeId := (h.frames x).bind Frame.parent

/-- The first scope has a handle to the second one. -/
def Inside (h : Heap) (x p : ScopeId) : Prop := h.outer? x = some p

/-- Follows handles outwards, a number of times. -/
def climb (h : Heap) : Nat → ScopeId → Option ScopeId
  | 0, x => some x
  | count + 1, x => (h.outer? x).bind (h.climb count)

/-- The scopes in memory are the nodes of a forest, with a depth and two tables at each of them. -/
structure Forest (h : Heap) : Prop where
  /-- The names of constants have values. -/
  mem_bindings_of_constant : ∀ {x frame name}, h.frames x = some frame → name ∈ frame.constants →
    name ∈ frame.bindings
  acyclic : ∀ x, ¬ Relation.TransGen h.Inside x x
  depth_eq_one_iff : ∀ {x frame}, h.frames x = some frame →
    (frame.depth = 1 ↔ frame.parent = none)
  /-- A handle in a scope leads to a scope, and the depths tell that it is directly around. -/
  depth_inside : ∀ {x frame p}, h.frames x = some frame → frame.parent = some p →
    ∃ outer, h.frames p = some outer ∧ frame.depth = outer.depth + 1
  /-- `parent` gives a handle to the scope around. -/
  parent_eq : ∀ {x}, (h.frames x).isSome →
    h.parent x = some (h.outer? x, ((h.outer? x).map h.share).getD h)
  /-- The loop of `root` ends within `depth` rounds, at the scope that `depth - 1` handles lead to;
  that has none around it. -/
  root_eq : ∀ {x frame}, h.frames x = some frame → ∃ root outermost,
    h.root x = some (root, h.share root) ∧ h.climb (frame.depth - 1) x = some root ∧
      h.frames root = some outermost ∧ outermost.parent = none
  /-- The scopes of one tree, and no others, have the same outermost scope. -/
  root_eq_iff : ∀ {x y root root' h₁ h₂}, h.root x = some (root, h₁) → h.root y = some (root', h₂) →
    (root = root' ↔ Relation.EqvGen h.Inside x y)
  /-- The loop of `resolve` ends within `depth` rounds.  An owner has a value for the name, so neither
  looking that up nor assigning to it can fail for want of one. -/
  resolve_cases : ∀ {x}, (h.frames x).isSome → ∀ name,
    h.resolve x name = some (.error (.unresolved name), h) ∨
    ∃ owner frame value, h.resolve x name = some (.ok owner, h.share owner) ∧
      h.frames owner = some frame ∧ frame.bindings.lookup name = some value ∧
      h.lookup x name = some (.ok value, h) ∧
      h.isConstant x name = some (.ok (decide (name ∈ frame.constants)), h) ∧
      ∀ new, ∃ h', h.assign x name new =
        some (if name ∈ frame.constants then .error (.immutable name) else .ok new, h')

/-- A scope that is still in memory has the same handle, the same depth and all its names, and the
same ones are constant. -/
structure Keeps (h h' : Heap) : Prop where
  /-- An address that was given up is not used again. -/
  isSome_of_isSome : ∀ {x}, (h'.frames x).isSome → x.index < h.size → (h.frames x).isSome
  parent_eq : ∀ {x frame frame'}, h.frames x = some frame → h'.frames x = some frame' →
    frame'.parent = frame.parent
  depth_eq : ∀ {x frame frame'}, h.frames x = some frame → h'.frames x = some frame' →
    frame'.depth = frame.depth
  mem_bindings : ∀ {x frame frame' name}, h.frames x = some frame → h'.frames x = some frame' →
    name ∈ frame.bindings → name ∈ frame'.bindings
  mem_constants_iff : ∀ {x frame frame' name}, h.frames x = some frame →
    h'.frames x = some frame' → name ∈ frame.bindings →
      (name ∈ frame'.constants ↔ name ∈ frame.constants)

variable {h h' : Heap} {s s' : Store} {x y p root root' : ScopeId} {handles : Multiset ScopeId}
  {frame frame' : Frame} {name : String}

namespace Represents

/-! ## Links -/

/-- The scopes in memory are those that are alive. -/
theorem isSome_iff (hr : h.Represents s) : (h.frames x).isSome ↔ s.Live x := by
  constructor
  · intro hsome
    obtain ⟨frame, hframe⟩ := Option.isSome_iff_exists.1 hsome
    obtain ⟨scope, hget, -⟩ := hr.exists_scope hframe
    exact Store.live_of_get? hget
  · intro hlive
    obtain ⟨scope, hget⟩ := Store.live_iff.1 hlive
    obtain ⟨frame, hframe, -⟩ := hr.exists_frame hget
    rw [hframe]
    rfl

/-- What is in memory is alive in the store. -/
theorem live (hr : h.Represents s) (hframe : h.frames x = some frame) : s.Live x :=
  hr.isSome_iff.1 (Option.isSome_of_eq_some hframe)

/-- `outer?` follows the handles in memory to the scopes around. -/
theorem outer?_eq (hr : h.Represents s) (x : ScopeId) : h.outer? x = s.parent? x := by
  rw [outer?]
  cases hframe : h.frames x with
  | some frame => exact hr.parent_eq hframe
  | none =>
    have hdead : ¬s.Live x := by
      rw [← hr.isSome_iff, hframe]
      exact Bool.false_ne_true
    rw [Store.parent?, Store.chain, Store.not_live_iff.1 hdead]
    rfl

/-- `Inside` is the same in memory and in the store. -/
theorem inside_eq (hr : h.Represents s) : h.Inside = s.Inside := by
  funext x p
  rw [Heap.Inside, Store.Inside, hr.outer?_eq]

/-- `climb` is the same in memory and in the store. -/
theorem climb_eq (hr : h.Represents s) (count : Nat) (x : ScopeId) :
    h.climb count x = s.climb count x := by
  induction count generalizing x with
  | zero => rfl
  | succ count ih => rw [Heap.climb, Store.climb, hr.outer?_eq, funext ih]

/-- `Heap.root` finds what `Store.root` says. -/
theorem root_of_root (hr : h.Represents s) (hheld : s.Held handles)
    (hroot : h.root x = some (root, h')) : s.Live x ∧ root = s.root x := by
  cases hframe : h.frames x with
  | none =>
    rw [Heap.root, hframe] at hroot
    cases hroot
  | some frame =>
    have hlive := hr.live hframe
    rw [hr.root_eq hheld hlive] at hroot
    cases hroot
    exact ⟨hlive, rfl⟩

/-! ## Tables -/

/-- The table of constants has the names that the store binds as constants. -/
theorem mem_constants (hr : h.Represents s) (hframe : h.frames x = some frame) (name : String) :
    name ∈ frame.constants ↔ ∃ b, s.binding? x name = some b ∧ b.mutability = .constant := by
  obtain ⟨scope, hget, hshows⟩ := hr.exists_scope hframe
  rw [hshows.mem_constants, Store.binding?_of_get? hget]

/-- Either nothing from a scope outwards declares a name, or the owner has a value for it, which is
what is looked up, and which is assigned to unless the name is in the other table. -/
theorem resolve_cases (hr : h.Represents s) (hheld : s.Held handles) (hx : s.Live x)
    (name : String) :
    h.resolve x name = some (.error (.unresolved name), h) ∨
    ∃ owner frame value, h.resolve x name = some (.ok owner, h.share owner) ∧
      h.frames owner = some frame ∧ frame.bindings.lookup name = some value ∧
      h.lookup x name = some (.ok value, h) ∧
      h.isConstant x name = some (.ok (decide (name ∈ frame.constants)), h) ∧
      ∀ new, ∃ h', h.assign x name new =
        some (if name ∈ frame.constants then .error (.immutable name) else .ok new, h') := by
  rw [hr.resolve_eq hheld hx, hr.lookup_eq hheld hx, hr.isConstant_eq hheld hx]
  cases hresolve : s.resolve x name with
  | error e =>
    obtain ⟨-, rfl⟩ := Store.resolve_eq_error_iff.1 hresolve
    exact .inl rfl
  | ok owner =>
    obtain ⟨frame, b, hframe, -, -, hb, hvalue, hconstant⟩ := hr.exists_owner hheld hresolve
    have hflag : b.mutability.isConstant = decide (name ∈ frame.constants) := by
      cases hm : b.mutability <;> simp [hconstant, hm, Mutability.isConstant]
    -- The owner has the name in its table of values, so no question about it is left without an
    -- answer.
    refine .inr ⟨owner, frame, b.value, rfl, hframe, hvalue, ?_, ?_, fun new => ?_⟩
    · rw [Store.lookup_of_resolve hresolve hb]
    · rw [Store.isConstant_of_resolve hresolve hb, hflag]
    · obtain ⟨h', hassign, -⟩ := hr.assign hheld hx name new
      refine ⟨h', ?_⟩
      rw [hassign, Store.assign_of_resolve hresolve hb, hflag]
      simp only [decide_eq_true_eq]

/-- A name that is in a table has a binding in both stores, with the same mutability. -/
private theorem exists_kept (hr : h.Represents s) (hr' : h'.Represents s')
    (hdevelops : s.Develops s') (hframe : h.frames x = some frame)
    (hframe' : h'.frames x = some frame') (hname : name ∈ frame.bindings) :
    ∃ b value, s.binding? x name = some b ∧ s'.binding? x name = some { b with value } := by
  rw [hr.mem_bindings hframe, Store.hasLocal_eq, Option.isSome_iff_exists] at hname
  obtain ⟨b, hb⟩ := hname
  obtain ⟨value, hb', -⟩ := hdevelops.binding_of_binding (hr'.live hframe') hb
  exact ⟨b, value, hb, hb'⟩

/-! ## The forest -/

/-- What `Represents` a store with right holds is a `Forest`. -/
theorem forest (hr : h.Represents s) (hheld : s.Held handles) : h.Forest where
  mem_bindings_of_constant := by
    intro x frame name hframe hname
    obtain ⟨b, hb, -⟩ := (hr.mem_constants hframe name).1 hname
    rw [hr.mem_bindings hframe, Store.hasLocal_eq, hb]
    rfl
  acyclic := by
    rw [hr.inside_eq]
    exact hheld.acyclic
  depth_eq_one_iff := by
    intro x frame hframe
    rw [hr.depth_eq hframe, hr.parent_eq hframe]
    exact hheld.depth_eq_one_iff (hr.live hframe)
  -- The depth of the store is the length of a chain, and the chain of the scope around is one
  -- shorter.
  depth_inside := by
    intro x frame p hframe hp
    rw [hr.parent_eq hframe] at hp
    obtain ⟨outer, houter, -⟩ := hr.exists_held hheld (hheld.of_inside hp).1
    refine ⟨outer, houter, ?_⟩
    rw [hr.depth_eq hframe, hr.depth_eq houter, hheld.depth_inside hp]
  parent_eq := by
    intro x hsome
    rw [hr.outer?_eq]
    cases hp : s.parent? x with
    | none => exact hr.parent_none hheld (hr.isSome_iff.1 hsome) hp
    | some p => exact hr.parent_some hheld hp
  root_eq := by
    intro x frame hframe
    have hlive := hr.live hframe
    have hroot := Store.Held.live_of_mem_chain hheld (Store.root_mem_chain hlive)
    obtain ⟨outermost, houtermost, -⟩ := hr.exists_held hheld hroot
    refine ⟨s.root x, outermost, hr.root_eq hheld hlive, ?_, houtermost, ?_⟩
    -- The number of handles to follow is the one that the store climbs.
    · rw [hr.depth_eq hframe, hr.climb_eq, hheld.climb_root hlive]
    · rw [hr.parent_eq houtermost, hheld.parent?_root hlive]
  root_eq_iff := by
    intro x y root root' h₁ h₂ hx hy
    obtain ⟨hlive, rfl⟩ := hr.root_of_root hheld hx
    obtain ⟨hlive', rfl⟩ := hr.root_of_root hheld hy
    rw [hr.inside_eq]
    exact hheld.root_eq_iff hlive hlive'
  resolve_cases := fun hsome name => hr.resolve_cases hheld (hr.isSome_iff.1 hsome) name

/-- `Keeps` follows from what stays of a store. -/
theorem keeps (hr : h.Represents s) (hr' : h'.Represents s') (hdevelops : s.Develops s') :
    h.Keeps h' where
  isSome_of_isSome := by
    intro x hsome hlt
    rw [hr.size_eq] at hlt
    exact hr.isSome_iff.2 (hdevelops.live_of_live (hr'.isSome_iff.1 hsome) hlt)
  parent_eq := by
    intro x frame frame' hframe hframe'
    rw [hr'.parent_eq hframe', hr.parent_eq hframe, Store.parent?, Store.parent?,
      hdevelops.chain_eq (hr.live hframe) (hr'.live hframe')]
  depth_eq := by
    intro x frame frame' hframe hframe'
    rw [hr'.depth_eq hframe', hr.depth_eq hframe, Store.depth, Store.depth,
      hdevelops.chain_eq (hr.live hframe) (hr'.live hframe')]
  mem_bindings := by
    intro x frame frame' name hframe hframe' hname
    obtain ⟨b, value, -, hb'⟩ := exists_kept hr hr' hdevelops hframe hframe' hname
    rw [hr'.mem_bindings hframe', Store.hasLocal_eq, hb']
    rfl
  mem_constants_iff := by
    intro x frame frame' name hframe hframe' hname
    obtain ⟨b, value, hb, hb'⟩ := exists_kept hr hr' hdevelops hframe hframe' hname
    rw [hr'.mem_constants hframe', hr.mem_constants hframe, hb, hb']
    simp

end Represents

end Heap

end ScriptCore
