import ScriptCore.Proofs.Scope.Chain
import ScriptCore.Proofs.Session.Course

/-!
# What a session never takes back

Whatever the steps of a session are, and through whichever handles, a scope that is still there has
the scopes around it that it was made with, all the names that it ever declared, and its constants
with their values.  Host functions, which may declare and assign on their own, are no exception.

* `forest_of_reachable`: the scopes are always the nodes of a forest, which never changes but at its
  leaves;
* `constants_of_reachable`: constants keep their values, and in particular a global scope always has
  the literals and the catalogue as on the first day.
-/

namespace ScriptCore

namespace Store

variable {s s' : Store} {x e y z : ScopeId} {name : String} {value : Value} {b : Binding}

/-- A scope that is still there has the same scopes around it and all the names that it had. -/
structure Keeps (s s' : Store) : Prop where
  parent?_eq : ∀ {x}, s.Live x → s'.Live x → s'.parent? x = s.parent? x
  depth_eq : ∀ {x}, s.Live x → s'.Live x → s'.depth x = s.depth x
  root_eq : ∀ {x}, s.Live x → s'.Live x → s'.root x = s.root x
  hasLocal_of_hasLocal : ∀ {x name}, s.hasLocal x name = true → s'.Live x →
    s'.hasLocal x name = true

/-- `Develops` keeps what is around the scopes, and the names. -/
theorem Develops.keeps (h : s.Develops s') : s.Keeps s' where
  parent?_eq hx hx' := by rw [parent?, h.chain_eq hx hx', parent?]
  depth_eq hx hx' := by rw [depth, h.chain_eq hx hx', depth]
  root_eq hx hx' := by rw [root, h.chain_eq hx hx', root]
  hasLocal_of_hasLocal := by
    intro x name hlocal hx'
    rw [hasLocal_eq, Option.isSome_iff_exists] at hlocal ⊢
    obtain ⟨b, hb⟩ := hlocal
    obtain ⟨value, hb', -⟩ := h.binding_of_binding hx' hb
    exact ⟨_, hb'⟩

/-! ## Constants -/

/-- A scope itself declares a name, which has a value there and is constant. -/
structure BindsConstant (s : Store) (x : ScopeId) (name : String) (value : Value) : Prop where
  hasLocal : s.hasLocal x name = true
  lookup : s.lookup x name = .ok value
  isConstant : s.isConstant x name = .ok true

/-- `resolve` of a name that the scope itself declares gives the scope. -/
theorem resolve_of_binding? (hb : s.binding? x name = some b) : s.resolve x name = .ok x := by
  obtain ⟨scope, hget⟩ := live_iff.1 (live_of_binding? hb)
  have hlocal : s.hasLocal x name = true := by
    rw [hasLocal_eq, hb]
    rfl
  rw [resolve_eq_ok_iff, chain_of_get? hget, List.find?_cons, hlocal]

/-- `BindsConstant` says of a constant what its binding says. -/
theorem bindsConstant_iff :
    s.BindsConstant x name value ↔ s.binding? x name = some ⟨name, value, .constant⟩ := by
  constructor
  · intro h
    have hlocal := h.hasLocal
    rw [hasLocal_eq, Option.isSome_iff_exists] at hlocal
    obtain ⟨b, hb⟩ := hlocal
    have hresolve := resolve_of_binding? hb
    have hvalue : b.value = value := by
      have hlookup := h.lookup
      rw [lookup_of_resolve hresolve hb] at hlookup
      exact Except.ok.inj hlookup
    have hconstant : b.mutability = .constant := by
      obtain ⟨owner, howner, hmem⟩ := isConstant_iff.1 h.isConstant
      cases hresolve.symm.trans howner
      obtain ⟨b', hb', hm⟩ := mem_constants.1 hmem
      cases hb.symm.trans hb'
      exact hm
    have hname : b.name = name := Bindings.name_of_get? hb
    rw [hb, ← hname, ← hvalue, ← hconstant]
  · intro hb
    have hresolve := resolve_of_binding? hb
    refine ⟨?_, lookup_of_resolve hresolve hb, ?_⟩
    · rw [hasLocal_eq, hb]
      rfl
    · exact isConstant_iff.2 ⟨x, hresolve, mem_constants.2 ⟨_, hb, rfl⟩⟩

/-- `Develops` keeps constants with their values. -/
theorem Develops.bindsConstant (h : s.Develops s') (hb : s.BindsConstant x name value)
    (hx' : s'.Live x) : s'.BindsConstant x name value := by
  rw [bindsConstant_iff] at hb ⊢
  exact h.constant hx' hb rfl

/-! ## A new scope inside another one -/

/-- `openInside` gives the next number. -/
theorem index_openInside (s : Store) (y : ScopeId) :
    (s.openInside y).1.index = s.scopes.size := by
  show ((s.retain y).retain y).scopes.size = s.scopes.size
  rw [(within_retain (s.retain y) y).size_eq, (within_retain s y).size_eq]

/-- `openInside` gives a number that was not used. -/
theorem not_live_openInside (s : Store) (y : ScopeId) : ¬s.Live (s.openInside y).1 := fun hold =>
  absurd hold.index_lt (s.index_openInside y).ge.not_gt

/-- `openInside` adds a scope that binds nothing; any other scope was there before. -/
theorem openInside_cases (h : (s.openInside y).2.Live z) :
    (z = (s.openInside y).1 ∧ (s.openInside y).2.chain z = z :: s.chain y ∧
      (s.openInside y).2.bindings z = .empty) ∨
    (s.Live z ∧ (s.openInside y).2.chain z = s.chain z ∧
      (s.openInside y).2.bindings z = s.bindings z) := by
  -- Holds are taken before the scope is added and given up after it; neither changes what is bound.
  have hreleased := within_release ((s.retain y).addChild y).2 y
  have hretained := (within_retain (s.retain y) y).trans (within_retain s y)
  have hadded (z : ScopeId) := get?_add ((s.retain y).retain y) ⟨.empty, (s.retain y).chain y, 1⟩ z
  have hchain := hreleased.chain_eq h
  have hbindings := hreleased.bindings_eq h
  by_cases hz : z = (s.openInside y).1
  -- The new scope has nothing of its own, and its chain goes on with the scope around it.
  · have hnew : ((s.retain y).addChild y).2.get? z = some ⟨.empty, (s.retain y).chain y, 1⟩ :=
      (hadded z).trans (if_pos hz)
    refine .inl ⟨hz, hchain.trans ?_, hbindings.trans (bindings_of_get? hnew)⟩
    rw [chain_of_get? hnew, chain_retain]
  · have hold : ((s.retain y).addChild y).2.get? z = ((s.retain y).retain y).get? z :=
      (hadded z).trans (if_neg hz)
    have hlive : ((s.retain y).retain y).Live z := by
      rw [Live, ← hold]
      exact hreleased.live h
    refine .inr ⟨hretained.live hlive, hchain.trans ?_, hbindings.trans ?_⟩
    · rw [chain, hold, ← chain, hretained.chain_eq hlive]
    · rw [bindings, hold, ← bindings, hretained.bindings_eq hlive]

/-- `openInside` makes a scope that binds nothing. -/
theorem binding?_openInside (s : Store) (y : ScopeId) (name : String) :
    (s.openInside y).2.binding? (s.openInside y).1 name = none := by
  by_contra hbound
  obtain ⟨b, hb⟩ := Option.ne_none_iff_exists'.1 hbound
  -- What binds the name is there, so it is the new scope, which is empty, or one of before.
  rcases openInside_cases (live_of_binding? hb) with ⟨-, -, hempty⟩ | ⟨hold, -⟩
  · rw [binding?, hempty, Bindings.get?_empty] at hb
    cases hb
  · exact s.not_live_openInside y hold

end Store

namespace Session

/-- The session has come of a new one by steps. -/
def Reachable (s : Session) : Prop := ∃ clock seed steps, s = (start clock seed).run steps

/-- Constants of the first session are constants of the second one, with the same values, as long as
their scopes are there; and native functions are the same. -/
structure KeepsConstants (s s' : Session) : Prop where
  bindsConstant : ∀ {x name value}, s.store.BindsConstant x name value → s'.store.Live x →
    s'.store.BindsConstant x name value
  native_of_native : ∀ {i : Nat} {body : NativeBody}, s.natives[i]? = some body →
    s'.natives[i]? = some body

/-- A scope has the literals and the catalogue, the functions of which are numbered from `first` on
and print to a sink. -/
structure HasGlobals (s : Session) (x : ScopeId) (sink : SinkId) (first : Nat) : Prop where
  bindsConstant : ∀ constant ∈ globals first, s.store.BindsConstant x constant.1 constant.2
  native_of_builtin : ∀ {i : Nat} {builtin : Builtin}, Builtin.catalogue[i]? = some builtin →
    s.natives[first + i]? = some (bodyOf sink builtin.behaviour)

variable {s s' : Session} {handle first : Nat} {x e : ScopeId} {sink : SinkId}
  {dropped : List Nat}

/-- `Reachable` sessions are `Sound`. -/
theorem Reachable.sound (hs : s.Reachable) : s.Sound := by
  obtain ⟨clock, seed, steps, rfl⟩ := hs
  exact sound_run clock seed steps

/-- `Reachable` sessions have scopes that are the nodes of a forest, and later steps keep the forest
and the names. -/
theorem forest_of_reachable (hs : s.Reachable) (later : List Step) :
    s.store.Forest ∧ s.store.Keeps (s.run later).store :=
  ⟨Store.Held.forest hs.sound, (s.develops_run later).keeps⟩

/-! ## Constants -/

/-- `Follows` keeps constants and native functions. -/
theorem Follows.keepsConstants (h : Follows dropped s s') : s.KeepsConstants s' :=
  ⟨fun hb hx' => h.reaches.develops.bindsConstant hb hx', h.native_of_native⟩

/-- `HasGlobals` is kept: what a scope has of the literals and the catalogue it keeps. -/
theorem HasGlobals.keeps (h : s.HasGlobals x sink first) (hkeeps : s.KeepsConstants s')
    (hx' : s'.store.Live x) : s'.HasGlobals x sink first :=
  ⟨fun constant hconstant => hkeeps.bindsConstant (h.bindsConstant constant hconstant) hx',
    fun hbuiltin => hkeeps.native_of_native (h.native_of_builtin hbuiltin)⟩

/-- `openGlobal` gives a handle to the new scope. -/
theorem scope?_openGlobal (s : Session) (sink : Sink) :
    (s.openGlobal sink).scope? s.handles.size = some s.store.addRoot.1 := by
  show (s.handles.push (some s.store.addRoot.1))[s.handles.size]?.join = _
  rw [Array.getElem?_push_size]
  rfl

/-- `addGlobal` makes a scope with the literals and the catalogue. -/
theorem hasGlobals_addGlobal (s : Session) (sink : SinkId) :
    (s.addGlobal sink).2.HasGlobals s.store.addRoot.1 sink s.natives.size := by
  refine ⟨fun constant hconstant => ?_, fun {i builtin} hbuiltin => ?_⟩
  · rw [Store.bindsConstant_iff, binding?_addGlobal]
    exact ⟨_, hconstant, rfl⟩
  · rw [addGlobal_eq]
    dsimp only
    rw [getElem?_natives_append, List.getElem?_map, hbuiltin]
    rfl

/-- `openGlobal` makes a scope with the literals and the catalogue. -/
theorem hasGlobals_openGlobal (s : Session) (sink : Sink) :
    (s.openGlobal sink).HasGlobals s.store.addRoot.1 (s.output.add sink).1 s.natives.size := by
  have hadded := hasGlobals_addGlobal { s with output := (s.output.add sink).2 }
    (s.output.add sink).1
  rw [addGlobal_eq] at hadded
  have hnatives : (s.openGlobal sink).natives = s.natives ++
      Builtin.catalogue.map fun builtin => bodyOf (s.output.add sink).1 builtin.behaviour := by
    rw [openGlobal, natives_openConstants]
  refine ⟨hadded.bindsConstant, fun hbuiltin => ?_⟩
  rw [hnatives]
  exact hadded.native_of_builtin hbuiltin

/-- `declare` succeeds for a name that the scope does not declare itself. -/
theorem scopeStep_declare {name : String} (hnew : s.store.binding? e name = none) (value : Value)
    (m : Mutability) :
    (s.scopeStep handle e (.declare name (.value value) m)).1 = .ok (.value value) := by
  show (answerBinding (s.declare e name value m) Answer.value).1 = .ok (.value value)
  rw [declare, Store.declare_of_unbound hnew]
  rfl

/-- `declare` succeeds for every name in a new scope inside another one, also as mutable. -/
theorem declare_inside (he : s.scope? handle = some e) (name : String) (value : Value) :
    ((s.step (.onScope handle (.child 1))).2.step
      (.onScope s.handles.size (.declare name (.value value) .mutable))).1 = .ok (.value value) := by
  have hnew := s.store.binding?_openInside e name
  have hinner := scope?_openHandle s (s.store.openInside e)
  rw [step_child he]
  generalize s.store.openInside e = inner at hnew hinner ⊢
  rw [step_onScope hinner]
  exact scopeStep_declare hnew value .mutable

/-- Constants keep their values in every course of a reachable session, as long as their scopes are
there.  A global scope can be made in it at any time, and always has the literals and the catalogue
as in the beginning, while any of its names can be declared anew in a scope inside. -/
theorem constants_of_reachable (hs : s.Reachable) :
    (∀ later, s.KeepsConstants (s.run later)) ∧
    ∀ sink, ∃ global,
      s.step (.newGlobal sink) = (.ok (.handle s.handles.size 1), s.openGlobal sink) ∧
      (s.openGlobal sink).scope? s.handles.size = some global ∧
      ∀ later,
        (((s.openGlobal sink).run later).store.Live global →
          ((s.openGlobal sink).run later).HasGlobals global (s.output.add sink).1 s.natives.size) ∧
        (s.handles.size ∉ later.flatMap Step.dropped →
          ((s.openGlobal sink).run later).store.Live global) ∧
        ∀ handle, ((s.openGlobal sink).run later).scope? handle = some global → ∀ name value,
          ((((s.openGlobal sink).run later).step (.onScope handle (.child 1))).2.step
            (.onScope ((s.openGlobal sink).run later).handles.size
              (.declare name (.value value) .mutable))).1 = .ok (.value value) := by
  refine ⟨fun later => (s.follows_run later).keepsConstants, fun sink => ?_⟩
  have hmade : (s.openGlobal sink).Sound := (s.follows_openGlobal sink).sound hs.sound
  have hscope := s.scope?_openGlobal sink
  refine ⟨s.store.addRoot.1, s.step_newGlobal sink, hscope, fun later => ⟨?_, ?_, ?_⟩⟩
  · intro hlive
    exact (s.hasGlobals_openGlobal sink).keeps (follows_run _ later).keepsConstants hlive
  · intro hkept
    exact live_run hmade hscope hkept
  · intro handle he name value
    exact declare_inside he name value

/-- A constant that is shadowed inside, and a global scope with rejected writes. -/
theorem constants_of_reachable_shadowed :
    let s := (start 0 0).run [.newRoot, .onScope 0 (.declare "x" (.value (.boolean true)) .constant)]
    let shadowed : List Step :=
      [.onScope 0 (.child 1), .onScope 1 (.declare "x" (.value .null) .mutable),
        .onScope 1 (.assign "x" (.value (.boolean false))),
        .onScope 0 (.declare "x" (.value .null) .mutable), .onScope 0 (.assign "x" (.value .null))]
    let rejected : List Step :=
      [.onScope 1 (.assign "sqrt" (.value .null)), .onScope 1 (.declare "true" (.value .null) .mutable),
        .onScope 0 .drop]
    (s.run shadowed).store.lookup ⟨1⟩ "x" = .ok (.boolean false) ∧
      (s.run shadowed).store.BindsConstant ⟨0⟩ "x" (.boolean true) ∧
      ((s.openGlobal .console).run rejected).HasGlobals ⟨1⟩ ⟨0⟩ 0 := by
  intro s shadowed rejected
  have hs : s.Reachable := ⟨0, 0, _, rfl⟩
  obtain ⟨hkeeps, hglobal⟩ := constants_of_reachable hs
  obtain ⟨global, -, hscope, hlater⟩ := hglobal .console
  cases (s.scope?_openGlobal .console).symm.trans hscope
  have hbefore : s.store.BindsConstant ⟨0⟩ "x" (.boolean true) := by
    rw [Store.bindsConstant_iff]
    decide
  refine ⟨by decide, (hkeeps shadowed).bindsConstant hbefore (by decide), ?_⟩
  obtain ⟨hglobals, hlive, -⟩ := hlater rejected
  exact hglobals (hlive (by decide))

end Session

end ScriptCore
