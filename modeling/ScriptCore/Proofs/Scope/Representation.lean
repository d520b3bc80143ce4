import ScriptCore.Proofs.Scope.Chain
import ScriptCore.Proofs.Scope.Heap

/-!
# Memory and stores

Scopes in memory represent a store if each of them shows the scope of its number: its tables together
are the bindings, its handle is to the first of the scopes around it, and its depth and its holds are
right.  Every operation in memory gives the answer of the operation on the store, and what it leaves
represents what that leaves.

* `Frame.Shows`, `Heap.Represents`: the correspondence;
* `Heap.drop_share`: a handle that is taken and dropped leaves everything as it was, so the handles
  of the loops do;
* `Represents.leave_eq`, `Represents.seek_eq`, `Represents.unlink`: the loops end in time;
* `Represents.declare`, `Represents.assign`, `Represents.drop` and the others: the operations.
-/

namespace ScriptCore

variable {h h' : Heap} {s s' : Store} {x y p owner : ScopeId} {frame : Frame} {scope : Scope}
  {handles : Multiset ScopeId} {name : String} {value : Value}

namespace Heap

/-! ## Address by address -/

/-- `modify` changes what is at one address. -/
theorem frames_modify (h : Heap) (x : ScopeId) (f : Frame → Frame) (y : ScopeId) :
    (h.modify x f).frames y = if y = x then (h.frames y).map f else h.frames y := by
  refine (Function.update_apply _ _ _ _).trans ?_
  split
  next hy => rw [hy]
  next => rfl

/-- `free` takes away what is at one address. -/
theorem frames_free (h : Heap) (x y : ScopeId) :
    (h.free x).frames y = if y = x then none else h.frames y := Function.update_apply _ _ _ _

/-- `alloc` puts a scope at the new address. -/
theorem frames_alloc (h : Heap) (frame : Frame) (y : ScopeId) :
    (h.alloc frame).2.frames y = if y = (h.alloc frame).1 then some frame else h.frames y :=
  Function.update_apply _ _ _ _

/-- `share` counts at one address. -/
theorem frames_share (h : Heap) (x y : ScopeId) : (h.share x).frames y =
    if y = x then (h.frames y).map fun frame => { frame with holds := frame.holds + 1 }
    else h.frames y := h.frames_modify x _ y

/-- `share` counts one handle more in the scope itself. -/
theorem frames_share_self (hx : h.frames x = some frame) :
    (h.share x).frames x = some { frame with holds := frame.holds + 1 } := by
  rw [frames_share, if_pos rfl, hx]
  rfl

/-- Memory is known by what is at each address. -/
theorem ext_frames (hframes : ∀ y, h'.frames y = h.frames y) (hsize : h'.size = h.size) : h' = h := by
  cases h
  cases h'
  cases hsize
  cases funext hframes
  rfl

/-! ## Handles that are dropped again -/

/-- `clone` of a handle to a scope that is there only counts. -/
theorem clone_of_frames (hx : h.frames x = some frame) : h.clone x = some (h.share x) := by
  rw [clone, hx]
  rfl

/-- `drop` of one of several handles leaves the scope there. -/
theorem drop_of_shared (hx : h.frames x = some frame) (hdepth : 0 < frame.depth)
    (hholds : 1 < frame.holds) :
    h.drop x = some (h.modify x fun frame => { frame with holds := frame.holds - 1 }) := by
  obtain ⟨rounds, hrounds⟩ := Nat.exists_eq_succ_of_ne_zero hdepth.ne'
  rw [drop, hx]
  show unlink frame.depth h (some x) = _
  rw [hrounds, unlink, hx]
  exact if_neg hholds.ne'

/-- `drop` after `share` leaves everything as it was. -/
theorem drop_share (hx : h.frames x = some frame) (hdepth : 0 < frame.depth)
    (hholds : 0 < frame.holds) : (h.share x).drop x = some h := by
  rw [drop_of_shared (frames_share_self hx) hdepth (Nat.succ_lt_succ hholds), Option.some.injEq]
  refine ext_frames (fun y => ?_) rfl
  rw [frames_modify, frames_share]
  split
  next hy =>
    rw [hy, hx]
    rfl
  next => rfl

/-- `share` of two scopes does not depend on the order. -/
theorem share_comm (h : Heap) (hne : x ≠ y) : (h.share x).share y = (h.share y).share x := by
  refine ext_frames (fun z => ?_) rfl
  rw [frames_share, frames_share, frames_share, frames_share]
  by_cases hy : z = y
  · rw [if_pos hy, if_neg fun hx => hne (hx.symm.trans hy), if_neg fun hx => hne (hx.symm.trans hy),
      if_pos hy]
  · rw [if_neg hy, if_neg hy]

/-- Going from one scope to another, a loop takes a handle to the second and drops that to the
first. -/
theorem drop_share_share (hx : h.frames x = some frame) (hdepth : 0 < frame.depth)
    (hholds : 0 < frame.holds) (hne : x ≠ p) : ((h.share x).share p).drop x = some (h.share p) := by
  have hkept : (h.share p).frames x = some frame := by
    rw [frames_share, if_neg hne, hx]
  rw [share_comm h hne]
  exact drop_share hkept hdepth hholds

end Heap

/-! ## The correspondence -/

/-- A scope in memory shows a scope of a store. -/
structure Frame.Shows (frame : Frame) (scope : Scope) : Prop where
  /-- The table of values has the names of the bindings. -/
  lookup_eq : ∀ name, frame.bindings.lookup name = (scope.bindings.get? name).map Binding.value
  /-- The other table has those that are constant. -/
  mem_constants : ∀ name, name ∈ frame.constants ↔
    ∃ b, scope.bindings.get? name = some b ∧ b.mutability = .constant
  parent_eq : frame.parent = scope.parent?
  depth_eq : frame.depth = scope.enclosing.length + 1
  holds_eq : frame.holds = scope.holds

/-- `Frame.Shows` holds between new scopes, which bind nothing. -/
theorem Frame.shows_empty {parent : Option ScopeId} {enclosing : List ScopeId}
    (hparent : parent = enclosing.head?) :
    Frame.Shows ⟨∅, ∅, parent, enclosing.length + 1, 1⟩ ⟨.empty, enclosing, 1⟩ where
  lookup_eq _ := rfl
  mem_constants name := by simp
  parent_eq := hparent
  depth_eq := rfl
  holds_eq := rfl

/-- `Frame.Shows` is kept when a name that is not bound yet goes into one table or into both. -/
theorem Frame.Shows.insert (hshows : frame.Shows scope)
    (hnew : scope.bindings.get? name = none) (value : Value) (m : Mutability) :
    Frame.Shows
      { frame with
        bindings := frame.bindings.insert name value
        constants := if m.isConstant then Insert.insert name frame.constants else frame.constants }
      { scope with bindings := scope.bindings.insert ⟨name, value, m⟩ } := by
  -- The table of constants cannot have the name from before, since that was not bound.
  have hfree : name ∉ frame.constants := by
    rw [hshows.mem_constants, hnew]
    simp
  refine ⟨fun other => ?_, fun other => ?_, hshows.parent_eq, hshows.depth_eq, hshows.holds_eq⟩
  · rw [Bindings.get?_insert hnew]
    by_cases hother : name = other
    · rw [if_pos hother, ← hother, AList.lookup_insert]
      rfl
    · rw [if_neg hother, AList.lookup_insert_ne (Ne.symm hother), hshows.lookup_eq]
  · rw [Bindings.get?_insert hnew]
    by_cases hother : name = other
    · subst hother
      rw [if_pos rfl]
      cases m <;> simp [Mutability.isConstant, hfree]
    · rw [if_neg hother, ← hshows.mem_constants]
      cases m <;> simp [Mutability.isConstant, Ne.symm hother]

/-- `Frame.Shows` is kept by another value of a bound name, which concerns the table of values only.
-/
theorem Frame.Shows.update {b : Binding} (hshows : frame.Shows scope)
    (hb : scope.bindings.get? name = some b) (value : Value) :
    Frame.Shows { frame with bindings := frame.bindings.insert name value }
      { scope with bindings := scope.bindings.update name value } := by
  refine ⟨fun other => ?_, fun other => ?_, hshows.parent_eq, hshows.depth_eq, hshows.holds_eq⟩
  -- The table of values has the new value under this name and the old ones under the others.
  · by_cases hother : name = other
    · subst hother
      rw [AList.lookup_insert, Bindings.get?_update, hb, Option.map_some, Option.map_some,
        Bindings.withValue, if_pos (Bindings.name_of_get? hb)]
    · rw [AList.lookup_insert_ne (Ne.symm hother), Bindings.get?_update_of_ne hother,
        hshows.lookup_eq]
  -- The table of constants stays, and so does the mutability of each binding.
  · rw [hshows.mem_constants, Bindings.get?_update]
    cases scope.bindings.get? other with
    | none => rfl
    | some c =>
      have hkept : (Bindings.withValue name value c).mutability = c.mutability := by
        rw [Bindings.withValue]
        split <;> rfl
      simp [hkept]

namespace Heap

/-- Memory shows the scopes of a store, each at the address that is its number. -/
structure Represents (h : Heap) (s : Store) : Prop where
  size_eq : h.size = s.scopes.size
  rel : ∀ x, Option.Rel Frame.Shows (h.frames x) (s.get? x)

namespace Represents

/-- `Represents` has a scope in memory for each living scope. -/
theorem exists_frame (hr : h.Represents s) (hget : s.get? x = some scope) :
    ∃ frame, h.frames x = some frame ∧ frame.Shows scope := by
  have hshows := hr.rel x
  rw [hget] at hshows
  cases hframe : h.frames x with
  | none =>
    rw [hframe] at hshows
    cases hshows
  | some frame =>
    rw [hframe] at hshows
    cases hshows with
    | some hshows => exact ⟨frame, rfl, hshows⟩

/-- `Represents` has a living scope for each scope in memory. -/
theorem exists_scope (hr : h.Represents s) (hframe : h.frames x = some frame) :
    ∃ scope, s.get? x = some scope ∧ frame.Shows scope := by
  have hshows := hr.rel x
  rw [hframe] at hshows
  cases hget : s.get? x with
  | none =>
    rw [hget] at hshows
    cases hshows
  | some scope =>
    rw [hget] at hshows
    cases hshows with
    | some hshows => exact ⟨scope, rfl, hshows⟩

/-! ## Changes -/

/-- `Represents` is about what is at each number. -/
theorem congr (hr : h.Represents s) (hsize : s'.scopes.size = s.scopes.size)
    (hget : ∀ y, s'.get? y = s.get? y) : h.Represents s' :=
  ⟨hr.size_eq.trans hsize.symm, fun y => hget y ▸ hr.rel y⟩

/-- `Represents` is kept by a change of one scope that is shown by a change at its address. -/
theorem modify (hr : h.Represents s) {f : Frame → Frame} {g : Scope → Scope}
    (hfg : ∀ frame scope, h.frames x = some frame → s.get? x = some scope → frame.Shows scope →
      (f frame).Shows (g scope)) : (h.modify x f).Represents (s.modify x g) := by
  refine ⟨hr.size_eq.trans Array.size_modify.symm, fun y => ?_⟩
  rw [frames_modify, Store.get?_modify]
  split
  next hy =>
    subst hy
    -- What is at the address is there on both sides or on none.
    cases hget : s.get? y with
    | none =>
      have hrel := hr.rel y
      rw [hget] at hrel
      cases hframe : h.frames y with
      | none => exact .none
      | some frame =>
        rw [hframe] at hrel
        cases hrel
    | some scope =>
      obtain ⟨frame, hframe, hshows⟩ := hr.exists_frame hget
      rw [hframe]
      exact .some (hfg frame scope hframe hget hshows)
  next => exact hr.rel y

/-- `Represents` is kept when a scope is freed on both sides. -/
theorem free (hr : h.Represents s) (x : ScopeId) : (h.free x).Represents (s.remove x) := by
  refine ⟨hr.size_eq.trans Array.size_modify.symm, fun y => ?_⟩
  rw [frames_free, Store.get?_remove]
  split
  · exact .none
  · exact hr.rel y

/-- `Represents` is kept by new scopes, whose addresses are their numbers. -/
theorem alloc (hr : h.Represents s) (hshows : frame.Shows scope) :
    (h.alloc frame).1 = (s.add scope).1 ∧ (h.alloc frame).2.Represents (s.add scope).2 := by
  have hid : (h.alloc frame).1 = (s.add scope).1 := congrArg ScopeId.mk hr.size_eq
  refine ⟨hid, ?_, fun y => ?_⟩
  · exact (congrArg Nat.succ hr.size_eq).trans (Array.size_push _).symm
  · rw [frames_alloc, Store.get?_add, hid]
    split
    · exact .some hshows
    · exact hr.rel y

/-- `Represents` is kept when a handle and a hold are counted. -/
theorem share (hr : h.Represents s) (x : ScopeId) : (h.share x).Represents (s.retain x) :=
  hr.modify fun _ _ _ _ hshows =>
    { hshows with holds_eq := congrArg Nat.succ hshows.holds_eq }

/-! ## Reading a scope -/

/-- The stored depth is the length of the chain. -/
theorem depth_eq (hr : h.Represents s) (hframe : h.frames x = some frame) :
    frame.depth = s.depth x := by
  obtain ⟨scope, hget, hshows⟩ := hr.exists_scope hframe
  rw [hshows.depth_eq, Store.depth, Store.chain_of_get? hget, List.length_cons]

/-- The stored link is to the first of the scopes around. -/
theorem parent_eq (hr : h.Represents s) (hframe : h.frames x = some frame) :
    frame.parent = s.parent? x := by
  obtain ⟨scope, hget, hshows⟩ := hr.exists_scope hframe
  rw [hshows.parent_eq, Store.parent?, Store.chain_of_get? hget]
  rfl

/-- The table of values has the names that the scope declares. -/
theorem mem_bindings (hr : h.Represents s) (hframe : h.frames x = some frame) (name : String) :
    name ∈ frame.bindings ↔ s.hasLocal x name = true := by
  obtain ⟨scope, hget, hshows⟩ := hr.exists_scope hframe
  rw [← AList.lookup_isSome, hshows.lookup_eq, Store.hasLocal_eq, Store.binding?_of_get? hget,
    Option.isSome_map]

/-- A living scope is there, at a depth and with a handle. -/
theorem exists_held (hr : h.Represents s) (hheld : s.Held handles) (hx : s.Live x) :
    ∃ frame, h.frames x = some frame ∧ 0 < frame.depth ∧ 0 < frame.holds := by
  obtain ⟨scope, hget⟩ := Store.live_iff.1 hx
  obtain ⟨frame, hframe, hshows⟩ := hr.exists_frame hget
  have hpositive := hheld.positive hget
  refine ⟨frame, hframe, ?_, ?_⟩
  · rw [hshows.depth_eq]
    exact Nat.succ_pos _
  · rwa [hshows.holds_eq]

/-! ## Loops outwards -/

/-- `Heap.parent` as a step outwards of a loop, up to where the handle to the first scope is
dropped. -/
theorem parent_share (hr : h.Represents s) (hheld : s.Held handles) (hx : s.Live x) :
    (h.share x).parent x = match s.parent? x with
      | none => some (none, h.share x)
      | some p => some (some p, (h.share x).share p) := by
  obtain ⟨frame, hframe, -⟩ := hr.exists_held hheld hx
  rw [Heap.parent, frames_share_self hframe]
  show (match frame.parent with
    | none => some (none, h.share x)
    | some p => (h.share x).clone p >>= fun h => some (some p, h)) = _
  rw [hr.parent_eq hframe]
  cases hp : s.parent? x with
  | none => rfl
  | some p =>
    obtain ⟨outer, houter, -⟩ := (hr.share x).exists_held (hheld.retain hx)
      (Store.live_retain.2 (hheld.of_inside hp).1)
    simp only [clone_of_frames houter, Option.bind_eq_bind, Option.bind_some]

/-- `drop` at the end of the step leaves a handle to the second scope only. -/
theorem drop_inner (hr : h.Represents s) (hheld : s.Held handles) (hp : s.Inside x p) :
    ((h.share x).share p).drop x = some (h.share p) := by
  obtain ⟨frame, hframe, hdepth, hholds⟩ := hr.exists_held hheld hp.live
  have hlt := (hheld.of_inside hp).2.1
  exact drop_share_share hframe hdepth hholds fun heq => Nat.lt_irrefl _ (heq ▸ hlt)

/-- `leave` looks at the scopes that `seekRoot` looks at. -/
theorem leave_eq (hr : h.Represents s) (hheld : s.Held handles) (rounds : Nat) (hx : s.Live x) :
    leave rounds (h.share x) x = (s.seekRoot rounds x).map fun r => (r, h.share r) := by
  induction rounds generalizing x with
  | zero => rfl
  | succ rounds ih =>
    rw [leave, hr.parent_share hheld hx, Store.seekRoot]
    cases hp : s.parent? x with
    | none => rfl
    | some p =>
      simp only [Option.bind_eq_bind, Option.bind_some, hr.drop_inner hheld hp]
      exact ih (hheld.of_inside hp).1

/-- The handle that `resolve` gives, if it finds an owner. -/
def holding (h : Heap) : Except BindingError ScopeId → Heap
  | .ok owner => h.share owner
  | .error _ => h

/-- `seek` looks at the scopes that `seekOwner` looks at. -/
theorem seek_eq (hr : h.Represents s) (hheld : s.Held handles) (name : String) (rounds : Nat)
    (hx : s.Live x) : seek name rounds (h.share x) x =
      (s.seekOwner name rounds x).map fun owner => (owner, holding h owner) := by
  induction rounds generalizing x with
  | zero => rfl
  | succ rounds ih =>
    obtain ⟨frame, hframe, hdepth, hholds⟩ := hr.exists_held hheld hx
    rw [seek, frames_share_self hframe, Store.seekOwner]
    simp only [Option.bind_eq_bind, Option.bind_some, hr.mem_bindings hframe]
    -- Both ask whether the name is declared, and then go on outwards or end.
    split
    · rfl
    · rw [hr.parent_share hheld hx]
      cases hp : s.parent? x with
      | none =>
        simp only [Option.bind_some, drop_share hframe hdepth hholds]
        rfl
      | some p =>
        simp only [Option.bind_some, hr.drop_inner hheld hp]
        exact ih (hheld.of_inside hp).1

/-- `Heap.root` ends in time, with a handle to the outermost scope. -/
theorem root_eq (hr : h.Represents s) (hheld : s.Held handles) (hx : s.Live x) :
    h.root x = some (s.root x, h.share (s.root x)) := by
  obtain ⟨frame, hframe, -⟩ := hr.exists_held hheld hx
  rw [Heap.root, hframe]
  simp only [Option.bind_eq_bind, Option.bind_some, clone_of_frames hframe, hr.depth_eq hframe,
    hr.leave_eq hheld _ hx, hheld.seekRoot_depth hx, Option.map_some]

/-- `Heap.resolve` ends in time, with a handle to the owner if there is one. -/
theorem resolve_eq (hr : h.Represents s) (hheld : s.Held handles) (hx : s.Live x) (name : String) :
    h.resolve x name = some (s.resolve x name, holding h (s.resolve x name)) := by
  obtain ⟨frame, hframe, -⟩ := hr.exists_held hheld hx
  rw [Heap.resolve, hframe]
  simp only [Option.bind_eq_bind, Option.bind_some, clone_of_frames hframe, hr.depth_eq hframe,
    hr.seek_eq hheld name _ hx, hheld.seekOwner_depth hx, Option.map_some]

/-! ## Handles and scopes -/

/-- `Heap.parent` gives a handle to the scope around. -/
theorem parent_some (hr : h.Represents s) (hheld : s.Held handles) (hp : s.Inside x p) :
    h.parent x = some (some p, h.share p) := by
  obtain ⟨frame, hframe, -⟩ := hr.exists_held hheld hp.live
  obtain ⟨outer, houter, -⟩ := hr.exists_held hheld (hheld.of_inside hp).1
  rw [Heap.parent, hframe]
  simp only [Option.bind_eq_bind, Option.bind_some, (hr.parent_eq hframe).trans hp,
    clone_of_frames houter]
  rfl

/-- `Heap.parent` gives nothing if there is no scope around. -/
theorem parent_none (hr : h.Represents s) (hheld : s.Held handles) (hx : s.Live x)
    (hp : s.parent? x = none) : h.parent x = some (none, h) := by
  obtain ⟨frame, hframe, -⟩ := hr.exists_held hheld hx
  rw [Heap.parent, hframe]
  simp only [Option.bind_eq_bind, Option.bind_some, (hr.parent_eq hframe).trans hp]
  rfl

/-- `Heap.unlink` ends in time, and leaves what a release leaves. -/
theorem unlink (hr : h.Represents s) (hheld : s.Held (x ::ₘ handles)) :
    ∃ h', Heap.unlink (s.depth x) h (some x) = some h' ∧ h'.Represents (s.release x) := by
  -- A scope that goes hands its hold on to an older one.
  induction hn : x.index using Nat.strongRecOn generalizing h s x with
  | ind n ih =>
    obtain ⟨scope, hget, hcases⟩ := hheld.release_cases
    obtain ⟨frame, hframe, hshows⟩ := hr.exists_frame hget
    have hparent : frame.parent = scope.parent? := hshows.parent_eq
    obtain ⟨rounds, hrounds⟩ := Nat.exists_eq_succ_of_ne_zero
      (Store.depth_pos (Store.live_of_get? hget)).ne'
    rw [hrounds, Heap.unlink, hframe]
    simp only [Option.bind_eq_bind, Option.bind_some, hshows.holds_eq]
    obtain ⟨hmore, hrelease⟩ | ⟨hone, hp, hrelease⟩ | ⟨hone, p, hp, hlt, hchain, hheld', hrelease⟩ :=
      hcases
    -- The scope stays for another handle; or it goes as an outermost scope; or it goes and hands on
    -- its own handle.
    · rw [if_neg hmore.ne', hrelease]
      exact ⟨_, rfl, hr.modify fun _ _ _ _ hshows =>
        { hshows with holds_eq := congrArg (· - 1) hshows.holds_eq }⟩
    · rw [if_pos hone, hparent, hp, hrelease]
      exact ⟨_, by cases rounds <;> rfl, hr.free x⟩
    · have hdepth : (s.remove x).depth p = rounds := by
        rw [Store.depth, hchain, List.length_cons] at hrounds
        exact Nat.succ.inj hrounds
      rw [if_pos hone, hparent, hp, hrelease, ← hdepth]
      exact ih p.index (hn ▸ hlt) (hr.free x) hheld' rfl

/-- `Heap.drop` ends in time. -/
theorem drop (hr : h.Represents s) (hheld : s.Held (x ::ₘ handles)) :
    ∃ h', h.drop x = some h' ∧ h'.Represents (s.release x) := by
  obtain ⟨frame, hframe, -⟩ := hr.exists_held hheld
    (hheld.live x (Multiset.mem_cons_self x handles))
  obtain ⟨h', hunlink, hr'⟩ := hr.unlink hheld
  refine ⟨h', ?_, hr'⟩
  rw [Heap.drop, hframe]
  simp only [Option.bind_eq_bind, Option.bind_some, hr.depth_eq hframe, hunlink]

/-- `Heap.new` makes what `addRoot` makes. -/
theorem new (hr : h.Represents s) :
    h.new.1 = s.addRoot.1 ∧ h.new.2.Represents s.addRoot.2 :=
  hr.alloc (@Frame.shows_empty none [] rfl)

/-- `Heap.child` makes what `addChild` makes. -/
theorem child (hr : h.Represents s) (hheld : s.Held handles) (hx : s.Live x) :
    ∃ h', h.child x = some ((s.addChild x).1, h') ∧ h'.Represents (s.addChild x).2 := by
  obtain ⟨frame, hframe, -⟩ := hr.exists_held hheld hx
  obtain ⟨scope, hget⟩ := Store.live_iff.1 hx
  -- The depth that is stored in the outer scope is the length of its chain.
  have hdepth : frame.depth = (s.chain x).length := hr.depth_eq hframe
  have hhead : some x = (s.chain x).head? := by
    rw [Store.chain_of_get? hget]
    rfl
  obtain ⟨hid, hr'⟩ := (hr.share x).alloc (Frame.shows_empty hhead)
  refine ⟨_, ?_, hr'⟩
  rw [Heap.child, clone_of_frames hframe]
  simp only [Option.bind_eq_bind, Option.bind_some, frames_share_self hframe, hdepth]
  rw [Store.addChild, ← hid]
  rfl

/-! ## Names -/

/-- `atOwner` asks and changes the tables of the owner; the handle to it comes and goes. -/
theorem atOwner_of_resolve {α : Type} (hr : h.Represents s) (hheld : s.Held handles)
    (hx : s.Live x) (howner : s.resolve x name = .ok owner)
    (hframe : h.frames owner = some frame) (hdepth : 0 < frame.depth) (hholds : 0 < frame.holds)
    (ask : (AList fun _ : String => Value) → Finset String →
      Except BindingError α × AList fun _ : String => Value) :
    h.atOwner x name ask = some ((ask frame.bindings frame.constants).1,
      h.modify owner fun f => { f with bindings := (ask frame.bindings frame.constants).2 }) := by
  rw [atOwner, hr.resolve_eq hheld hx, howner]
  simp only [Option.bind_eq_bind, Option.bind_some, holding, frames_share_self hframe]
  generalize ask frame.bindings frame.constants = result
  -- The handle counts in another field than the one that is changed.
  have hcomm : (h.share owner).modify owner (fun f => { f with bindings := result.2 }) =
      (h.modify owner fun f => { f with bindings := result.2 }).share owner := by
    refine ext_frames (fun y => ?_) rfl
    rw [frames_modify, frames_share, frames_share, frames_modify]
    split
    · rw [Option.map_map, Option.map_map]
      rfl
    · rfl
  have hchanged : (h.modify owner fun f => { f with bindings := result.2 }).frames owner =
      some { frame with bindings := result.2 } := by
    rw [frames_modify, if_pos rfl, hframe]
    rfl
  rw [hcomm, drop_share hchanged hdepth hholds]
  rfl

/-- `atOwner` asks nothing if there is no owner. -/
theorem atOwner_of_unresolved {α : Type} {e : BindingError} (hr : h.Represents s)
    (hheld : s.Held handles) (hx : s.Live x) (hresolve : s.resolve x name = .error e)
    (ask : (AList fun _ : String => Value) → Finset String →
      Except BindingError α × AList fun _ : String => Value) :
    h.atOwner x name ask = some (.error e, h) := by
  rw [atOwner, hr.resolve_eq hheld hx, hresolve]
  rfl

/-- `modify` with the table that is there changes nothing. -/
theorem modify_bindings_self (hframe : h.frames x = some frame) :
    (h.modify x fun f => { f with bindings := frame.bindings }) = h := by
  refine ext_frames (fun y => ?_) rfl
  rw [frames_modify]
  split
  next hy =>
    rw [hy, hframe]
    rfl
  next => rfl

/-- The owner of a name has it in its table of values, and in the other one if it is constant. -/
theorem exists_owner (hr : h.Represents s) (hheld : s.Held handles)
    (howner : s.resolve x name = .ok owner) : ∃ frame b,
      h.frames owner = some frame ∧ 0 < frame.depth ∧ 0 < frame.holds ∧
      s.binding? owner name = some b ∧ frame.bindings.lookup name = some b.value ∧
      (name ∈ frame.constants ↔ b.mutability = .constant) := by
  obtain ⟨b, hb⟩ := Store.exists_binding_of_resolve howner
  obtain ⟨frame, hframe, hdepth, hholds⟩ := hr.exists_held hheld (Store.live_of_binding? hb)
  obtain ⟨scope, hget, hshows⟩ := hr.exists_scope hframe
  have hbinding : scope.bindings.get? name = some b := by
    rwa [Store.binding?_of_get? hget] at hb
  refine ⟨frame, b, hframe, hdepth, hholds, hb, ?_, ?_⟩
  · rw [hshows.lookup_eq, hbinding]
    rfl
  · rw [hshows.mem_constants, hbinding]
    simp

/-- `Heap.lookup` answers what the store answers, and leaves memory as it was. -/
theorem lookup_eq (hr : h.Represents s) (hheld : s.Held handles) (hx : s.Live x) (name : String) :
    h.lookup x name = some (s.lookup x name, h) := by
  cases hresolve : s.resolve x name with
  | error e =>
    rw [Heap.lookup, hr.atOwner_of_unresolved hheld hx hresolve, Store.lookup,
      Store.lookupBinding_of_unresolved hresolve]
    rfl
  | ok owner =>
    obtain ⟨frame, b, hframe, hdepth, hholds, hb, hvalue, -⟩ := hr.exists_owner hheld hresolve
    rw [Heap.lookup, hr.atOwner_of_resolve hheld hx hresolve hframe hdepth hholds,
      Store.lookup_of_resolve hresolve hb]
    simp only [hvalue, modify_bindings_self hframe]

/-- `Heap.isConstant` answers what the store answers, and leaves memory as it was. -/
theorem isConstant_eq (hr : h.Represents s) (hheld : s.Held handles) (hx : s.Live x)
    (name : String) : h.isConstant x name = some (s.isConstant x name, h) := by
  cases hresolve : s.resolve x name with
  | error e =>
    rw [Heap.isConstant, hr.atOwner_of_unresolved hheld hx hresolve, Store.isConstant,
      Store.lookupBinding_of_unresolved hresolve]
    rfl
  | ok owner =>
    obtain ⟨frame, b, hframe, hdepth, hholds, hb, -, hconstant⟩ := hr.exists_owner hheld hresolve
    rw [Heap.isConstant, hr.atOwner_of_resolve hheld hx hresolve hframe hdepth hholds,
      Store.isConstant_of_resolve hresolve hb]
    -- The table of constants is asked, and the table of values goes back as it is.
    simp only [hconstant, modify_bindings_self hframe]
    cases b.mutability <;> rfl

/-- `Heap.declare` fails or succeeds as in the store, and changes the same scope. -/
theorem declare (hr : h.Represents s) (hheld : s.Held handles) (hx : s.Live x) (name : String)
    (value : Value) (m : Mutability) :
    ∃ h', h.declare x name value m = some ((s.declare x name value m).1, h') ∧
      h'.Represents (s.declare x name value m).2 := by
  obtain ⟨frame, hframe, -⟩ := hr.exists_held hheld hx
  rw [Heap.declare, hframe]
  simp only [Option.bind_eq_bind, Option.bind_some, hr.mem_bindings hframe]
  obtain ⟨b, hb, hdeclare⟩ | ⟨hnone, hdeclare⟩ := s.declare_cases x name value m
  · have hlocal : s.hasLocal x name = true := by
      rw [Store.hasLocal_eq, hb]
      rfl
    rw [if_pos hlocal, hdeclare]
    exact ⟨h, rfl, hr⟩
  · have hlocal : ¬s.hasLocal x name = true := by
      rw [Store.hasLocal_eq, hnone]
      simp
    rw [if_neg hlocal, hdeclare]
    refine ⟨_, rfl, hr.modify fun frame scope _ hget hshows => hshows.insert ?_ value m⟩
    rwa [Store.binding?_of_get? hget] at hnone

/-- `Heap.assign` fails or succeeds as in the store, and changes the same scope.  The owner has a
value for the name, so there is something to change. -/
theorem assign (hr : h.Represents s) (hheld : s.Held handles) (hx : s.Live x) (name : String)
    (value : Value) :
    ∃ h', h.assign x name value = some ((s.assign x name value).1, h') ∧
      h'.Represents (s.assign x name value).2 := by
  cases hresolve : s.resolve x name with
  | error e =>
    rw [Heap.assign, hr.atOwner_of_unresolved hheld hx hresolve, Store.assign_of_unresolved hresolve]
    exact ⟨h, rfl, hr⟩
  | ok owner =>
    obtain ⟨frame, b, hframe, hdepth, hholds, hb, hvalue, hconstant⟩ :=
      hr.exists_owner hheld hresolve
    rw [Heap.assign, hr.atOwner_of_resolve hheld hx hresolve hframe hdepth hholds]
    cases hm : b.mutability with
    | constant =>
      rw [Store.assign_of_constant hresolve hb hm]
      simp only [if_pos (hconstant.2 hm), modify_bindings_self hframe]
      exact ⟨h, rfl, hr⟩
    | mutable =>
      have hnot : name ∉ frame.constants := fun hmem => by
        cases hm.symm.trans (hconstant.1 hmem)
      rw [Store.assign_of_mutable hresolve hb hm]
      simp only [if_neg hnot, hvalue]
      refine ⟨_, rfl, hr.modify fun found scope hfound hget hshows => ?_⟩
      cases hframe.symm.trans hfound
      rw [Store.binding?_of_get? hget] at hb
      exact hshows.update hb value

end Represents

end Heap

end ScriptCore
