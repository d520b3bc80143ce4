import ScriptCore.Proofs.Session.Block

/-!
# What leaks out of a block

A block ends, and this is what it leaves.  In the scopes that were there before it nothing was added
or removed, no name has become or ceased to be constant, and the scopes around them are the same.  A
value is another one only if an assignment to its name leaked, and then the name had its owner there
from where the block was opened.  If nothing leaked, everything reads as before.

* `Block.run`: what a run of operations leaves, by induction on the operations;
* `encapsulates_of_reachable`: the law for blocks of reachable sessions.
-/

namespace ScriptCore

/-- A step that only reads. -/
def ScopeStep.IsRead : ScopeStep → Prop
  | .depth | .localSize | .inspect | .hasLocal _ | .isConstant _ | .resolve _ | .lookup _
  | .bindings _ => True
  | _ => False

/-- What is picked from the first numbers does not depend on how many there are, beyond all that are
picked. -/
theorem filter_range_eq {p : Nat → Bool} {m n : Nat} (hm : ∀ i, p i = true → i < m)
    (hn : ∀ i, p i = true → i < n) : (List.range m).filter p = (List.range n).filter p := by
  wlog hle : m ≤ n generalizing m n
  · exact (this hn hm (le_of_not_ge hle)).symm
  -- Of what comes after the smaller number nothing is picked.
  obtain ⟨k, rfl⟩ := Nat.exists_eq_add_of_le hle
  have hnone : ((List.range k).map (m + ·)).filter p = [] := by
    rw [List.filter_eq_nil_iff]
    intro i hi hp
    obtain ⟨j, -, rfl⟩ := List.mem_map.1 hi
    exact absurd (hm _ hp) (Nat.not_lt.2 (Nat.le_add_right m j))
  rw [List.range_add, List.filter_append, hnone, List.append_nil]

namespace Session

variable {s t : Session} {handle : Nat} {e x y : ScopeId} {name : String} {operation : Operation}
  {operations rest : List Operation}

/-- Among the operations is an assignment to the name that leaks out of a block: it is done in a scope
that is new since the first session, and when its turn comes, no new scope declares the name, from
there outwards.  The operations go on from the second session. -/
def Leaks (s t : Session) (operations : List Operation) (name : String) : Prop :=
  ∃ before handle value later y,
    operations = before ++ .onScope handle (.assign name value) :: later ∧
    (t.run (before.map Operation.step)).scope? handle = some y ∧ ¬s.store.Live y ∧
    s.store.Exposed (t.run (before.map Operation.step)).store y name

/-- What a block leaves of a session, if it was opened in a scope of that and is done now. -/
structure Encapsulates (s : Session) (e : ScopeId) (leaks : String → Prop) (after : Session) :
    Prop where
  live : ∀ {x}, s.store.Live x → after.store.Live x
  scope?_eq : ∀ {handle x}, s.scope? handle = some x → after.scope? handle = some x
  /-- No name is added or removed. -/
  hasLocal_eq : ∀ {x}, s.store.Live x → ∀ name,
    after.store.hasLocal x name = s.store.hasLocal x name
  localSize_eq : ∀ {x}, s.store.Live x → after.store.localSize x = s.store.localSize x
  constants_eq : ∀ {x}, s.store.Live x → after.store.constants x = s.store.constants x
  parent?_eq : ∀ {x}, s.store.Live x → after.store.parent? x = s.store.parent? x
  depth_eq : ∀ {x}, s.store.Live x → after.store.depth x = s.store.depth x
  /-- A binding changes only in the owner that its name has where the block was opened, if it is not
  constant and an assignment to the name leaked. -/
  leaks_of_ne : ∀ {x name}, s.store.Live x →
    after.store.binding? x name ≠ s.store.binding? x name →
    s.store.Owns e name x ∧ name ∉ s.store.constants x ∧ leaks name
  /-- If nothing leaked, the handles of before read as before. -/
  read_eq : (∀ name, ¬leaks name) → ∀ {handle x}, s.scope? handle = some x →
    ∀ step : ScopeStep, step.IsRead →
    (after.step (.onScope handle step)).1 = (s.step (.onScope handle step)).1

/-! ## Runs -/

/-- `Leaks` of the first operation alone is a leak of all operations. -/
theorem leaks_of_head (h : s.Leaks t [operation] name) : s.Leaks t (operation :: rest) name := by
  obtain ⟨before, handle, value, later, y, hsplit, hleaks⟩ := h
  cases before with
  | nil =>
    cases hsplit
    exact ⟨[], handle, value, rest, y, rfl, hleaks⟩
  | cons first before =>
    -- There is one operation only, so none comes before the one that leaks.
    have hnil := (List.cons.inj hsplit).2
    exact absurd hnil.symm (List.append_ne_nil_of_right_ne_nil _ (List.cons_ne_nil _ _))

/-- `Leaks` of the later operations, from where the first one has led, is a leak of all operations.
-/
theorem leaks_of_tail (h : s.Leaks (t.step operation.step).2 rest name) :
    s.Leaks t (operation :: rest) name := by
  obtain ⟨before, handle, value, later, y, rfl, hleaks⟩ := h
  exact ⟨operation :: before, handle, value, later, y, rfl, hleaks⟩

/-- `Block.next`: an operation of a block changes a binding outside only by leaking. -/
theorem Block.next (hb : s.Block e t) (hs : s.Sound) (he : s.store.Live e)
    (hstays : operation.StaysIn s.handles.size) :
    s.Block e (t.step operation.step).2 ∧
    ∀ {x name}, s.store.Live x →
      (t.step operation.step).2.store.binding? x name ≠ t.store.binding? x name →
      s.store.Owns e name x ∧ name ∉ s.store.constants x ∧ s.Leaks t [operation] name := by
  cases operation with
  | new => cases hstays
  | onScope handle operation =>
    obtain ⟨hhandle, hstays⟩ := hstays
    cases hy : t.scope? handle with
    | none =>
      -- Without the handle the operation fails and changes nothing.
      have hstep : (t.step (Operation.onScope handle operation).step).2 = t := by
        rw [Operation.step, Session.step, hy]
      rw [hstep]
      exact ⟨hb, fun _ hne => absurd rfl hne⟩
    | some y =>
      have hworks := works_step hy hstays
      have hnext := hb.of_works hs he hhandle hy hworks (t.follows_step _)
      refine ⟨hnext, fun {x name} hx hne => ?_⟩
      rcases hb.bindings_of_works hs he hhandle hy hworks hx ((hnext.extends hs).live hx) with
        heq | ⟨other, value, rfl, hexposed, howns, hmutable, hupdate⟩
      · exact absurd (congrArg (·.get? name) heq) hne
      · -- An assignment changes the binding of its own name only.
        obtain rfl : other = name := by
          by_contra hother
          exact hne ((congrArg (·.get? name) hupdate).trans (Bindings.get?_update_of_ne hother value))
        have hnew : ¬s.store.Live y := fun hold =>
          absurd hold.index_lt (not_lt.2 (hb.index_le hhandle hy))
        exact ⟨howns, hmutable, [], handle, value, [], y, rfl, hy, hnew, hexposed⟩

/-- `Block.run`: so do all operations of a block together. -/
theorem Block.run (hb : s.Block e t) (hs : s.Sound) (he : s.store.Live e)
    (hstays : ∀ operation ∈ operations, operation.StaysIn s.handles.size) :
    s.Block e (t.run (operations.map Operation.step)) ∧
    ∀ {x name}, s.store.Live x →
      (t.run (operations.map Operation.step)).store.binding? x name ≠ t.store.binding? x name →
      s.store.Owns e name x ∧ name ∉ s.store.constants x ∧ s.Leaks t operations name := by
  -- Induction on the operations: after the first one the session is in the block for the others.
  induction operations generalizing t with
  | nil => exact ⟨hb, fun _ hne => absurd rfl hne⟩
  | cons operation rest ih =>
    obtain ⟨hfirst, hrest⟩ := List.forall_mem_cons.1 hstays
    obtain ⟨hnext, hchange⟩ := hb.next hs he hfirst
    obtain ⟨hlast, hchanges⟩ := ih hnext hrest
    rw [List.map_cons, run_cons]
    refine ⟨hlast, fun {x name} hx hne => ?_⟩
    -- The binding is changed at once, or by one of the other operations.
    by_cases hnow : (t.step operation.step).2.store.binding? x name = t.store.binding? x name
    · obtain ⟨howns, hmutable, hleaks⟩ := hchanges hx fun heq => hne (heq.trans hnow)
      exact ⟨howns, hmutable, leaks_of_tail hleaks⟩
    · obtain ⟨howns, hmutable, hleaks⟩ := hchange hx hnow
      exact ⟨howns, hmutable, leaks_of_head hleaks⟩

/-! ## Reading -/

/-- `handlesOf` a scope outside are those of before. -/
theorem Block.handlesOf_eq (hb : s.Block e t) (hx : s.store.Live x) :
    t.handlesOf x = s.handlesOf x := by
  have hiff (handle : Nat) : t.scope? handle = some x ↔ s.scope? handle = some x :=
    ⟨fun h => hb.scope?_old h hx.index_lt, fun h => hb.scope?_eq h⟩
  simp only [handlesOf, hiff]
  refine filter_range_eq (fun handle h => ?_) fun handle h => ?_
  · exact lt_of_scope? ((hiff handle).2 (of_decide_eq_true h))
  · exact lt_of_scope? (of_decide_eq_true h)

/-- `scopeStep` reads in a scope outside what it read before, if no binding outside was changed. -/
theorem Block.scopeStep_eq (hb : s.Block e t) (hs : s.Sound) (hx : s.store.Live x)
    (hbinding : ∀ {x} name, s.store.Live x → t.store.binding? x name = s.store.binding? x name)
    {step : ScopeStep} (hstep : step.IsRead) :
    (t.scopeStep handle x step).1 = (s.scopeStep handle x step).1 := by
  have hextends := hb.extends hs
  cases step with
  | depth => rw [scopeStep, scopeStep, hextends.depth_eq hx]
  | localSize => rw [scopeStep, scopeStep, hextends.localSize_eq hx]
  | inspect => rw [scopeStep, scopeStep, hextends.inspect_eq hx]
  | hasLocal name => rw [scopeStep, scopeStep, hextends.hasLocal_eq hx]
  | isConstant name =>
    rw [scopeStep, scopeStep, hextends.isConstant_eq hs hx]
    rfl
  | lookup name =>
    rw [scopeStep, scopeStep, hextends.lookup_eq hs hx (hbinding name)]
    rfl
  | bindings names =>
    have hview (name : String) : view t.store x name = view s.store x name := by
      rw [view, view, hextends.lookup_eq hs hx (hbinding name), hextends.isConstant_eq hs hx,
        hextends.hasLocal_eq hx]
    rw [scopeStep, scopeStep, funext hview]
  | resolve name =>
    rw [scopeStep, scopeStep, hextends.resolve_eq hs hx]
    cases hresolve : s.store.resolve x name with
    | error failure => rfl
    | ok owner =>
      -- The answer lists the handles to the owner, which is a scope outside as well.
      obtain ⟨b, hb'⟩ := Store.exists_binding_of_resolve hresolve
      have howner := Store.live_of_binding? hb'
      show Except.ok (Answer.owner (t.store.depth owner) (t.handlesOf owner)) =
        .ok (.owner (s.store.depth owner) (s.handlesOf owner))
      rw [hextends.depth_eq howner, hb.handlesOf_eq howner]
  | _ => cases hstep

/-! ## The law -/

/-- In a reachable session, open a block in the scope of a handle: a new scope inside it, with a new
handle.  Declare, assign and look up, clone and drop handles and make scopes inside, in any order,
through handles that were got in the block.  Then the block `Encapsulates` what it does: no scope of
before has gained or lost a name or a constant or is inside other scopes; a value has changed only
by an assignment that leaked; and if none did, the handles of before read as before. -/
theorem encapsulates_of_reachable (hs : s.Reachable) (he : s.scope? handle = some e)
    {operations : List Operation}
    (hstays : ∀ operation ∈ operations, operation.StaysIn s.handles.size) :
    let opened := (s.step (.onScope handle (.child 1))).2
    (∃ c, opened.scope? s.handles.size = some c ∧ ¬s.store.Live c ∧
      opened.store.chain c = c :: s.store.chain e) ∧
    s.Encapsulates e (s.Leaks opened operations) (opened.run (operations.map Operation.step)) := by
  intro opened
  have hsound := hs.sound
  have hlive := hsound.live he
  have hopened : opened = s.openHandle (s.store.openInside e) := step_child he
  have hblock : s.Block e opened := hopened ▸ block_openHandle hsound he
  obtain ⟨hrun, hchanges⟩ := hblock.run hsound hlive hstays
  have hextends := hrun.extends hsound
  have hleaks {x : ScopeId} {name : String} (hx : s.store.Live x)
      (hne : (opened.run (operations.map Operation.step)).store.binding? x name ≠
        s.store.binding? x name) :
      s.store.Owns e name x ∧ name ∉ s.store.constants x ∧ s.Leaks opened operations name := by
    -- Opening the block changes no binding.
    have hbindings : opened.store.bindings x = s.store.bindings x :=
      hopened ▸ bindings_openHandle hsound he hx
    exact hchanges hx fun heq => hne (heq.trans (congrArg (·.get? name) hbindings))
  have hscope : opened.scope? s.handles.size = some (s.store.openInside e).1 := by
    rw [hopened]
    exact scope?_openHandle s _
  have hnew := s.store.not_live_openInside e
  -- The new scope is there, it is new, and its chain goes on with that of the scope around.
  refine ⟨⟨(s.store.openInside e).1, hscope, hnew, ?_⟩, ?_⟩
  · have hchild : opened.store.Live (s.store.openInside e).1 :=
      ((follows_step _ _).sound hsound).live hscope
    rw [hopened] at hchild ⊢
    rcases Store.openInside_cases hchild with ⟨-, hchain, -⟩ | ⟨hold, -⟩
    · exact hchain
    · exact absurd hold hnew
  · refine ⟨hextends.live, hrun.scope?_eq, hextends.hasLocal_eq, hextends.localSize_eq,
      hextends.constants_eq, hextends.parent?_eq, hextends.depth_eq, hleaks, ?_⟩
    intro hnone handle x hx step hstep
    -- A binding that is not as before would be one that leaked.
    rw [step_onScope (hrun.scope?_eq hx), step_onScope hx]
    refine hrun.scopeStep_eq hsound (hsound.live hx) (fun {x} name hx => ?_) hstep
    by_contra hne
    exact hnone name (hleaks hx hne).2.2

/-- In a block `x` is declared anew and assigned to from a scope inside, and so is `y`, which is not
declared there. -/
theorem encapsulates_of_reachable_shadowed :
    let s := (start 0 0).run [.newRoot, .onScope 0 (.declare "x" (.value .null) .mutable),
      .onScope 0 (.declare "y" (.value .null) .mutable)]
    let operations : List Operation := [.onScope 1 (.declare "x" .null .mutable), .onScope 1 .child,
      .onScope 2 (.assign "x" (.boolean true)), .onScope 2 (.assign "y" (.boolean true)),
      .onScope 2 (.declare "z" .null .constant)]
    let opened := (s.step (.onScope 0 (.child 1))).2
    let after := opened.run (operations.map Operation.step)
    after.store.lookup ⟨0⟩ "x" = .ok .null ∧ after.store.lookup ⟨0⟩ "y" = .ok (.boolean true) ∧
      after.store.hasLocal ⟨0⟩ "z" = false ∧ after.store.localSize ⟨0⟩ = 2 ∧
      s.Leaks opened operations "y" ∧ s.store.Owns ⟨0⟩ "y" ⟨0⟩ := by
  intro s operations opened after
  have hs : s.Reachable := ⟨0, 0, _, rfl⟩
  have hroot : s.store.Live ⟨0⟩ := by decide
  have hstays : ∀ operation ∈ operations, operation.StaysIn s.handles.size := by
    simp only [operations, List.forall_mem_cons]
    exact ⟨⟨by decide, rfl⟩, ⟨by decide, rfl⟩, ⟨by decide, rfl⟩, ⟨by decide, rfl⟩,
      ⟨by decide, rfl⟩, nofun⟩
  obtain ⟨-, h⟩ := encapsulates_of_reachable hs (by decide : s.scope? 0 = some ⟨0⟩) hstays
  have hchanged : after.store.binding? ⟨0⟩ "y" ≠ s.store.binding? ⟨0⟩ "y" := by decide
  obtain ⟨howns, -, hleaks⟩ := h.leaks_of_ne hroot hchanged
  refine ⟨by decide, by decide, ?_, ?_, hleaks, howns⟩
  · rw [h.hasLocal_eq hroot]
    decide
  · rw [h.localSize_eq hroot]
    decide

end Session

end ScriptCore
