import ScriptCore.Proofs.Scope.Release
import ScriptCore.Proofs.Scope.Shape
import ScriptCore.Proofs.Session.Permanence

/-!
# Blocks

A block is a new scope inside another one, with all that is done through handles to it and to scopes
that are made inside.  It cannot go outwards.  The scopes that were there before keep their names and
constants and the scopes around them; and a value changes only if an assignment leaks: no scope of the
block declares the name on the way from the assignment to the scope around the block.

* `Works`: what an operation of a block can do;
* `Follows.live`: the scopes that were there before stay, since no handle to them is dropped;
* `Block`: what holds at any time in a block;
* `Block.of_works`: an operation of the block leaves it so, and
* `Block.bindings_of_works`: what it changes outside.
-/

namespace ScriptCore

namespace Store

/-- No scope that is not in the first store declares the name, from a scope of the second store
outwards. -/
def Exposed (before now : Store) (y : ScopeId) (name : String) : Prop :=
  ∀ z ∈ now.chain y, ¬before.Live z → now.hasLocal z name = false

end Store

/-! ## Operations of a block -/

/-- The operation gives a handle to a scope further out. -/
def ScopeOperation.goesOut : ScopeOperation → Bool
  | parent | root => true
  | child | clone | drop | declare .. | assign .. | lookup _ | resolve _ | isConstant _ => false

/-- The operation is done through one of the handles from a number on, and does not go outwards. -/
def Operation.StaysIn (first : Nat) : Operation → Prop
  | new => False
  | onScope handle operation => first ≤ handle ∧ operation.goesOut = false

namespace Session

variable {s t t' : Session} {handle : Nat} {e x y z owner : ScopeId} {name : String}
  {operation : ScopeOperation} {dropped : List Nat}

/-- What an operation that does not go outwards does to a session, through a handle to a scope. -/
inductive Works (t : Session) (handle : Nat) (y : ScopeId) : ScopeOperation → Session → Prop where
  | stay {operation : ScopeOperation} : Works t handle y operation t
  | child : Works t handle y .child (t.openHandle (t.store.openInside y))
  | clone : Works t handle y .clone (t.shareHandle y).2
  | drop : Works t handle y .drop (t.dropHandle handle)
  | declare {name : String} {value : Value} {m : Mutability} :
    Works t handle y (.declare name value m)
      { t with store := t.store.rebind y (·.insert ⟨name, value, m⟩) }
  | assign {name : String} {value : Value} {owner : ScopeId} {b : Binding}
    (howner : t.store.resolve y name = .ok owner) (hb : t.store.binding? owner name = some b)
    (hm : b.mutability = .mutable) :
    Works t handle y (.assign name value)
      { t with store := t.store.rebind owner (·.update name value) }

/-- `Works` tells what an operation does that does not go outwards. -/
theorem works_step (hy : t.scope? handle = some y) (hstays : operation.goesOut = false) :
    t.Works handle y operation (t.step (.onScope handle operation.step)).2 := by
  rw [step_onScope hy]
  cases operation with
  | child => exact .child
  | clone => exact .clone
  | drop => exact .drop
  | parent | root => cases hstays
  -- Declaring and assigning fail and change nothing, or change the bindings of one scope.
  | declare name value m =>
    show t.Works handle y _ { t with store := (t.store.declare y name value m).2 }
    rcases t.store.declare_cases y name value m with ⟨b, -, heq⟩ | ⟨-, heq⟩
    · rw [heq]
      exact .stay
    · rw [heq]
      exact .declare
  | assign name value =>
    show t.Works handle y _ { t with store := (t.store.assign y name value).2 }
    rcases t.store.assign_cases y name value with ⟨failure, heq⟩ | ⟨owner, b, howner, hb, hm, heq⟩
    · rw [heq]
      exact .stay
    · rw [heq]
      exact .assign howner hb hm
  | lookup | resolve | isConstant => exact .stay

/-- A handle is the one that `addHandle` made, or it was there before. -/
theorem scope?_addHandle (hz : (s.addHandle x).2.scope? handle = some z) :
    z = x ∨ s.scope? handle = some z := by
  rw [scope?, addHandle, Array.getElem?_push] at hz
  split at hz
  · exact .inl (Option.some.inj hz).symm
  · exact .inr hz

/-- `Works` leaves a handle as it was, or the handle is a new one, to the scope or to a new one
inside. -/
theorem Works.scope? (h : t.Works handle y operation t') {other : Nat}
    (hz : t'.scope? other = some z) :
    t.scope? other = some z ∨ z = y ∨ t.store.scopes.size ≤ z.index := by
  cases h with
  | stay | declare | assign => exact .inl hz
  | child =>
    rcases scope?_addHandle hz with rfl | hz
    · exact .inr (.inr (t.store.index_openInside y).ge)
    · exact .inl hz
  -- The new handle of `child` is to a new scope, and that of `clone` to the scope itself.
  | clone =>
    rcases scope?_addHandle hz with rfl | hz
    · exact .inr (.inl rfl)
    · exact .inl hz
  | drop =>
    rw [dropHandle] at hz
    split at hz
    · rw [Session.scope?, Array.getElem?_modify] at hz
      split at hz
      · cases hgone : t.handles[other]? <;> simp [hgone] at hz
      · exact .inl hz
    · exact .inl hz

/-- `dropHandle` takes scopes away and changes none that stays. -/
theorem within_dropHandle (t : Session) (handle : Nat) :
    (t.dropHandle handle).store.Within t.store := by
  rw [dropHandle]
  split
  · exact Store.within_release _ _
  · exact .refl _

/-- `Works` leaves a scope inside the same ones as before, or the scope is a new one inside the
scope of the operation. -/
theorem Works.chain (h : t.Works handle y operation t') (hz : t'.store.Live z) :
    (t.store.Live z ∧ t'.store.chain z = t.store.chain z) ∨
    (t.store.scopes.size ≤ z.index ∧ t'.store.chain z = z :: t.store.chain y) := by
  have hwithin {s' : Store} (hs' : s'.Within t.store) (hz : s'.Live z) :
      t.store.Live z ∧ s'.chain z = t.store.chain z := ⟨hs'.live hz, hs'.chain_eq hz⟩
  cases h with
  | stay => exact .inl ⟨hz, rfl⟩
  | child =>
    rcases Store.openInside_cases hz with ⟨hnew, hchain, -⟩ | ⟨hlive, hchain, -⟩
    · exact .inr ⟨hnew ▸ (t.store.index_openInside y).ge, hchain⟩
    · exact .inl ⟨hlive, hchain⟩
  | clone => exact .inl (hwithin (Store.within_retain _ _) hz)
  | drop => exact .inl (hwithin (within_dropHandle t handle) hz)
  | declare | assign => exact .inl ⟨Store.live_rebind.1 hz, Store.chain_rebind _ _ _ _⟩

/-- `Works` leaves the bindings of another scope, or the operation assigns to the name that resolves
to it. -/
theorem Works.bindings (h : t.Works handle y operation t') (hz : t'.store.Live z) (hne : z ≠ y)
    (hold : t.store.Live z) :
    t'.store.bindings z = t.store.bindings z ∨
    ∃ name value b, operation = .assign name value ∧ t.store.resolve y name = .ok z ∧
      t.store.binding? z name = some b ∧ b.mutability = .mutable ∧
      t'.store.bindings z = (t.store.bindings z).update name value := by
  cases h with
  | stay => exact .inl rfl
  | child =>
    -- The new scope was not there, so it is not the one in question.
    rcases Store.openInside_cases hz with ⟨hnew, -⟩ | ⟨-, -, hbindings⟩
    · exact absurd (hnew ▸ hold) (t.store.not_live_openInside y)
    · exact .inl hbindings
  | clone => exact .inl ((Store.within_retain _ _).bindings_eq hz)
  | drop => exact .inl ((within_dropHandle t handle).bindings_eq hz)
  | declare => exact .inl (Store.bindings_rebind_of_ne hne _)
  -- An assignment changes the owner of the name, which may be the scope in question.
  | @assign name value owner b howner hb hm =>
    by_cases hzo : z = owner
    · subst hzo
      exact .inr ⟨name, value, b, rfl, howner, hb, hm, Store.bindings_rebind_self hold _⟩
    · exact .inl (Store.bindings_rebind_of_ne hzo _)

/-! ## What stays -/

/-- A scope that is held has a handle. -/
theorem exists_handle_of_mem_held (hx : x ∈ s.held) : ∃ handle, s.scope? handle = some x := by
  rw [held, Multiset.mem_coe, List.mem_filterMap] at hx
  obtain ⟨place, hplace, hid⟩ := hx
  obtain ⟨handle, hhandle⟩ := List.mem_iff_getElem?.1 hplace
  rw [Array.getElem?_toList] at hhandle
  exact ⟨handle, by rw [Session.scope?, hhandle]; exact hid⟩

/-- `scope?` knows handles that were given. -/
theorem lt_of_scope? (hx : s.scope? handle = some x) : handle < s.handles.size := by
  rw [Session.scope?, Option.join_eq_some_iff] at hx
  exact (Array.getElem?_eq_some_iff.1 hx).1

/-- `Follows` takes no scope away as long as no handle is dropped. -/
theorem Follows.live (h : Follows dropped s t) (hs : s.Sound)
    (hdropped : ∀ handle ∈ dropped, s.handles.size ≤ handle) (hx : s.store.Live x) :
    t.store.Live x := by
  have ht : t.Sound := h.sound hs
  have hkeeps := h.reaches.develops.keeps
  -- A handle reaches the scope, and what it reaches is still there, from the inside to the outside.
  obtain ⟨e, hmem, hreach⟩ := (Store.Held.live_iff hs).1 hx
  induction hreach with
  | refl =>
    obtain ⟨handle, hhandle⟩ := exists_handle_of_mem_held hmem
    have hkept : handle ∉ dropped := fun hgone =>
      absurd (lt_of_scope? hhandle) (not_lt.2 (hdropped handle hgone))
    exact ht.live (h.scope?_of_scope? hhandle hkept)
  | tail _ hinside ih =>
    have hinner := ih hinside.live
    apply Store.Held.live_of_outward ht hinner (.single _)
    rw [Store.Inside, hkeeps.parent?_eq hinside.live hinner]
    exact hinside

/-- A session is in a block that was opened in another session, inside a scope of that. -/
structure Block (s : Session) (e : ScopeId) (t : Session) : Prop where
  /-- Only handles of the block were dropped. -/
  follows : ∃ dropped, (∀ handle ∈ dropped, s.handles.size ≤ handle) ∧ Follows dropped s t
  /-- No handle was given to a scope outside. -/
  scope?_old : ∀ {handle z}, t.scope? handle = some z → z.index < s.store.scopes.size →
    s.scope? handle = some z
  /-- From a scope of the block the way outwards goes through the block, and then through the scope
  that it was opened in. -/
  chain_new : ∀ {z}, t.store.Live z → s.store.scopes.size ≤ z.index →
    ∃ inner, t.store.chain z = inner ++ s.store.chain e ∧
      ∀ w ∈ inner, s.store.scopes.size ≤ w.index
  marks_eq : ∀ {x}, s.store.Live x → (t.store.bindings x).marks = (s.store.bindings x).marks

/-- `Block` leaves the scopes outside as they were, except for values. -/
theorem Block.extends (hb : s.Block e t) (hs : s.Sound) : s.store.Extends t.store := by
  obtain ⟨dropped, hdropped, hfollows⟩ := hb.follows
  have hlive {x : ScopeId} (hx : s.store.Live x) : t.store.Live x := hfollows.live hs hdropped hx
  exact ⟨hlive, fun hx => hfollows.reaches.develops.chain_eq hx (hlive hx), hb.marks_eq⟩

/-- `Block` leaves the handles of before as they were. -/
theorem Block.scope?_eq (hb : s.Block e t) (hx : s.scope? handle = some x) :
    t.scope? handle = some x := by
  obtain ⟨dropped, hdropped, hfollows⟩ := hb.follows
  refine hfollows.scope?_of_scope? hx fun hmem => ?_
  exact absurd (lt_of_scope? hx) (not_lt.2 (hdropped handle hmem))

/-- `Block` gives handles to its own scopes only. -/
theorem Block.index_le (hb : s.Block e t) (hhandle : s.handles.size ≤ handle)
    (hy : t.scope? handle = some y) : s.store.scopes.size ≤ y.index := by
  by_contra hlt
  have hold := lt_of_scope? (hb.scope?_old hy (not_le.1 hlt))
  exact absurd hold (not_lt.2 hhandle)

/-- `Block` scopes from which a name resolves to a scope outside expose it, and that scope is its
owner where the block was opened. -/
theorem Block.owns_of_resolve (hb : s.Block e t) (hs : s.Sound) (he : s.store.Live e)
    (hy : t.store.Live y) (hnew : s.store.scopes.size ≤ y.index) (hx : s.store.Live x)
    (hresolve : t.store.resolve y name = .ok x) :
    s.store.Exposed t.store y name ∧ s.store.Owns e name x := by
  obtain ⟨inner, hchain, hinner⟩ := hb.chain_new hy hnew
  have hextends := hb.extends hs
  rw [Store.resolve_eq_ok_iff, hchain, List.find?_append, Option.or_eq_some_iff] at hresolve
  rcases hresolve with hfound | ⟨hnone, hfound⟩
  · -- The scopes of the block are not among those outside.
    have hlt := hx.index_lt
    exact absurd hlt (not_lt.2 (hinner x (List.mem_of_find?_eq_some hfound)))
  · -- The search has gone through all scopes of the block and found nothing there.
    constructor
    · intro z hz hout
      rw [hchain, List.mem_append] at hz
      rcases hz with hz | hz
      · exact Bool.eq_false_iff.2 (List.find?_eq_none.1 hnone z hz)
      · exact absurd (Store.Held.live_of_mem_chain hs hz) hout
    · rw [← Store.Held.resolve_eq_ok_iff_owns hs he, ← hextends.resolve_eq hs he,
        Store.resolve_eq_ok_iff, hextends.chain_eq he]
      exact hfound

/-! ## Opening a block, and operations in it -/

/-- `openHandle` drops no handle. -/
theorem follows_openHandle (he : s.scope? handle = some e) :
    Follows [] s (s.openHandle (s.store.openInside e)) := by
  have hstep := s.follows_step (.onScope handle (.child 1))
  rw [step_child he] at hstep
  exact hstep

/-- `openHandle` leaves the bindings of the scopes that were there before. -/
theorem bindings_openHandle (hs : s.Sound) (he : s.scope? handle = some e) (hx : s.store.Live x) :
    (s.openHandle (s.store.openInside e)).store.bindings x = s.store.bindings x := by
  rcases Store.openInside_cases ((follows_openHandle he).live hs nofun hx) with
    ⟨hnew, -⟩ | ⟨-, -, hbindings⟩
  · exact absurd (hnew ▸ hx) (s.store.not_live_openInside e)
  · exact hbindings

/-- `openHandle` opens a block, with the new scope and the handle to it. -/
theorem block_openHandle (hs : s.Sound) (he : s.scope? handle = some e) :
    s.Block e (s.openHandle (s.store.openInside e)) := by
  refine ⟨⟨[], nofun, follows_openHandle he⟩, fun {other z} hz hlt => ?_, fun {z} hz hge => ?_,
    fun {x} hx => congrArg Bindings.marks (bindings_openHandle hs he hx)⟩
  · rcases scope?_addHandle hz with rfl | hz
    · exact absurd hlt (not_lt.2 (s.store.index_openInside e).ge)
    · exact hz
  · -- So far the block is the new scope alone.
    rcases Store.openInside_cases hz with ⟨-, hchain, -⟩ | ⟨hlive, -⟩
    · exact ⟨[z], hchain, List.forall_mem_singleton.2 hge⟩
    · exact absurd hlive.index_lt (not_lt.2 hge)

/-- `Block.bindings_of_works`: an operation of a block changes nothing outside, unless it assigns to
a name that is exposed. Then it changes the value in the owner that the name has where the block was
opened. -/
theorem Block.bindings_of_works (hb : s.Block e t) (hs : s.Sound) (he : s.store.Live e)
    (hhandle : s.handles.size ≤ handle) (hy : t.scope? handle = some y)
    (hworks : t.Works handle y operation t') (hx : s.store.Live x) (hx' : t'.store.Live x) :
    t'.store.bindings x = t.store.bindings x ∨
    ∃ name value, operation = .assign name value ∧ s.store.Exposed t.store y name ∧
      s.store.Owns e name x ∧ name ∉ s.store.constants x ∧
      t'.store.bindings x = (t.store.bindings x).update name value := by
  have hextends := hb.extends hs
  -- The operation is done in a scope of the block, so it can reach this one only by its name.
  have hnew := hb.index_le hhandle hy
  have hne : x ≠ y := fun heq => absurd hx.index_lt (not_lt.2 (heq ▸ hnew))
  rcases hworks.bindings hx' hne (hextends.live hx) with
    heq | ⟨name, value, b, rfl, hresolve, hbinding, hm, hupdate⟩
  · exact .inl heq
  · have hlive : t.store.Live y := by
      obtain ⟨dropped, -, hfollows⟩ := hb.follows
      exact (hfollows.sound hs).live hy
    obtain ⟨hexposed, howns⟩ := hb.owns_of_resolve hs he hlive hnew hx hresolve
    refine .inr ⟨name, value, rfl, hexposed, howns, fun hmem => ?_, hupdate⟩
    rw [← hextends.constants_eq hx, Store.mem_constants_of_binding? hbinding, hm] at hmem
    cases hmem

/-- An operation drops no handle but its own. -/
theorem eq_of_mem_dropped {step : ScopeStep} {other : Nat}
    (h : other ∈ (Step.onScope handle step).dropped) : other = handle := by
  cases step with
  | drop => exact List.mem_singleton.1 h
  | _ => cases h

/-- `Block.of_works`: after an operation of a block the session is still in the block. -/
theorem Block.of_works (hb : s.Block e t) (hs : s.Sound) (he : s.store.Live e)
    (hhandle : s.handles.size ≤ handle) (hy : t.scope? handle = some y)
    (hworks : t.Works handle y operation t')
    (hstep : Follows (Step.onScope handle operation.step).dropped t t') : s.Block e t' := by
  obtain ⟨dropped, hdropped, hfollows⟩ := hb.follows
  have hall := hfollows.trans hstep
  have hkept : ∀ other ∈ dropped ++ (Step.onScope handle operation.step).dropped,
      s.handles.size ≤ other := by
    intro other hother
    rcases List.mem_append.1 hother with hother | hother
    · exact hdropped other hother
    · rw [eq_of_mem_dropped hother]
      exact hhandle
  have hnew := hb.index_le hhandle hy
  have hsize := hfollows.reaches.develops.size_le
  -- In turn: handles to scopes outside, the way outwards, and the marks outside.
  refine ⟨⟨_, hkept, hall⟩, fun {other z} hz hlt => ?_, fun {z} hz hge => ?_, fun {x} hx => ?_⟩
  · rcases hworks.scope? hz with hz | rfl | hz
    · exact hb.scope?_old hz hlt
    · exact absurd hlt (not_lt.2 hnew)
    · exact absurd hlt (not_lt.2 (hsize.trans hz))
  · rcases hworks.chain hz with ⟨hlive, hchain⟩ | ⟨-, hchain⟩
    · rw [hchain]
      exact hb.chain_new hlive hge
    · -- A scope that is new in the block is inside the scope of the operation.
      have hlive : t.store.Live y := (hfollows.sound hs).live hy
      obtain ⟨inner, hinner, hall⟩ := hb.chain_new hlive hnew
      refine ⟨z :: inner, ?_, List.forall_mem_cons.2 ⟨hge, hall⟩⟩
      rw [hchain, hinner, List.cons_append]
  · rcases hb.bindings_of_works hs he hhandle hy hworks hx (hall.live hs hkept hx) with
      heq | ⟨name, value, -, -, -, -, hupdate⟩
    · rw [heq, hb.marks_eq hx]
    · rw [hupdate, Bindings.marks_update, hb.marks_eq hx]

end Session

end ScriptCore
