import ScriptCore.Proofs.Scope.Forest
import ScriptCore.Proofs.Session.Permanence

/-!
# Operations on scopes in memory

A `Machine` has scopes in memory and the handles that a host has to them, and takes the operations
that a `Session` takes as steps.  Nothing about its scopes is assumed.  That their tables agree, that
the depths are right and that the handles of the scopes lead outwards follows for all machines that
have come about by operations, from the correspondence of the two.

* `Machine.Represents.step`, `Machine.Represents.run`: a machine answers what a session answers, and
  goes on to what represents it;
* `Machine.forest_of_run`: after any operations the scopes are the nodes of a `Heap.Forest`, and more
  operations change that only as `Heap.Keeps` allows.
-/

namespace ScriptCore

variable {s s' : Store} {h h' : Heap} {x p : ScopeId} {handles : Multiset ScopeId} {frame : Frame}

/-! ## A new scope inside another one -/

namespace Store

/-- `release` only counts a hold that is not the last one. -/
theorem release_of_shared {scope : Scope} (hget : s.get? x = some scope) (hmore : 1 < scope.holds) :
    s.release x = s.modify x fun scope => { scope with holds := scope.holds - 1 } := by
  rw [release, chain_of_get? hget, releaseChain, hget]
  exact if_neg hmore.not_ge

/-- `openInside` leaves what `addChild` leaves: the hold that is taken meanwhile makes no
difference. -/
theorem get?_openInside (hx : s.Live x) (hheld : s.Held handles) (z : ScopeId) :
    (s.openInside x).2.get? z = (s.addChild x).2.get? z := by
  obtain ⟨scope, hget⟩ := live_iff.1 hx
  have hpositive := hheld.positive hget
  have hretain (t : Store) (z : ScopeId) : (t.retain x).get? z =
      if z = x then (t.get? z).map fun scope => { scope with holds := scope.holds + 1 }
      else t.get? z := get?_modify t x _ z
  have hnew : x ≠ ⟨s.scopes.size⟩ := fun heq => by
    have hlt := hx.index_lt
    rw [heq] at hlt
    exact Nat.lt_irrefl _ hlt
  have hsize := (within_retain s x).size_eq
  have hsize' := (within_retain (s.retain x) x).size_eq.trans hsize
  have hadd : (s.addChild x).2.get? z = if z = ⟨s.scopes.size⟩ then some ⟨.empty, s.chain x, 1⟩
      else (s.retain x).get? z := by
    rw [← hsize]
    exact get?_add (s.retain x) _ z
  have hadd' (z : ScopeId) : ((s.retain x).addChild x).2.get? z =
      if z = ⟨s.scopes.size⟩ then some ⟨.empty, s.chain x, 1⟩
      else ((s.retain x).retain x).get? z := by
    rw [← hsize', ← chain_retain s x x]
    exact get?_add ((s.retain x).retain x) _ z
  -- Two holds were taken, so the one that is given up is not the last.
  have hshared : ((s.retain x).addChild x).2.get? x =
      some { scope with holds := scope.holds + 1 + 1 } := by
    rw [hadd', if_neg hnew, hretain, hretain, if_pos rfl, if_pos rfl, hget]
    rfl
  have hmore : 1 < scope.holds + 1 + 1 := by omega
  rw [openInside, release_of_shared hshared hmore, get?_modify, hadd, hadd']
  -- In the scope itself one hold more is left, that of the new scope; the others are untouched.
  by_cases hz : z = x
  · rw [if_pos hz, hz, if_neg hnew, if_neg hnew, hretain, hretain, if_pos rfl,
      if_pos rfl, hget]
    rfl
  · rw [if_neg hz, hretain, hretain, if_neg hz, if_neg hz]

/-- `openInside` makes as many scopes as `addChild`. -/
theorem size_openInside (s : Store) (x : ScopeId) :
    (s.openInside x).2.scopes.size = (s.addChild x).2.scopes.size := by
  have hretain (t : Store) : (t.retain x).scopes.size = t.scopes.size := (within_retain t x).size_eq
  rw [openInside, (within_release _ x).size_eq]
  show (Array.push _ _).size = (Array.push _ _).size
  rw [Array.size_push, Array.size_push, hretain, hretain]

/-- `openInside` gives the new scope the number that `addChild` gives. -/
theorem id_openInside (s : Store) (x : ScopeId) : (s.openInside x).1 = (s.addChild x).1 :=
  congrArg ScopeId.mk ((s.index_openInside x).trans (within_retain s x).size_eq.symm)

/-- `openInside` makes a living scope. -/
theorem live_openInside (hx : s.Live x) (hheld : s.Held handles) :
    (s.openInside x).2.Live (s.openInside x).1 := by
  rw [Live, get?_openInside hx hheld, id_openInside, addChild, get?_add, if_pos rfl]
  rfl

end Store

/-- `Heap.child` makes what `openInside` makes. -/
theorem Heap.Represents.openInside (hr : h.Represents s) (hheld : s.Held handles) (hx : s.Live x) :
    ∃ h', h.child x = some ((s.openInside x).1, h') ∧ h'.Represents (s.openInside x).2 := by
  obtain ⟨h', hchild, hr'⟩ := hr.child hheld hx
  rw [Store.id_openInside]
  exact ⟨h', hchild, hr'.congr (s.size_openInside x) (Store.get?_openInside hx hheld)⟩

/-! ## Machines -/

/-- Scopes in memory, and the handles that a host has to them.  A handle that was dropped is none. -/
structure Machine where
  heap : Heap
  handles : Array (Option ScopeId)

namespace Machine

/-- No scopes. -/
def start : Machine := ⟨.empty, #[]⟩

/-- The scope of a handle. -/
def scope? (m : Machine) (handle : Nat) : Option ScopeId := m.handles[handle]?.join

/-- The handles to a scope. -/
def handlesOf (m : Machine) (x : ScopeId) : List Nat :=
  (List.range m.handles.size).filter fun handle => m.scope? handle = some x

/-- Gives a handle to the host, and answers with the depth that is stored in its scope. -/
def addHandle (m : Machine) (x : ScopeId) (heap : Heap) :
    Option (Except Failure Answer × Machine) := do
  let frame ← heap.frames x
  return (.ok (.handle m.handles.size frame.depth), ⟨heap, m.handles.push (some x)⟩)

/-- Answers what an operation on a name answered. -/
def answer {α : Type} (m : Machine) (result : Except BindingError α × Heap) (f : α → Answer) :
    Except Failure Answer × Machine :=
  ((result.1.map f).mapError .binding, { m with heap := result.2 })

/-- Takes an operation on the scope of a handle. -/
def scopeStep (m : Machine) (handle : Nat) (x : ScopeId) :
    ScopeOperation → Option (Except Failure Answer × Machine)
  | .child => do
    let (inner, heap) ← m.heap.child x
    m.addHandle inner heap
  | .clone => do m.addHandle x (← m.heap.clone x)
  | .parent => do
    let (outer, heap) ← m.heap.parent x
    match outer with
    | some p => m.addHandle p heap
    | none => return (.ok .none, { m with heap })
  | .root => do
    let (outermost, heap) ← m.heap.root x
    m.addHandle outermost heap
  | .drop => do
    let heap ← m.heap.drop x
    return (.ok .none, ⟨heap, m.handles.modify handle fun _ => none⟩)
  | .declare name value mutability => do
    return m.answer (← m.heap.declare x name value mutability) .value
  | .assign name value => do return m.answer (← m.heap.assign x name value) .value
  | .lookup name => do return m.answer (← m.heap.lookup x name) .value
  | .isConstant name => do return m.answer (← m.heap.isConstant x name) .flag
  | .resolve name => do
    let (owner, heap) ← m.heap.resolve x name
    match owner with
    | .error e => return (.error (.binding e), { m with heap })
    | .ok owner =>
      -- The handle to the owner is compared with those of the host, and dropped.
      let frame ← heap.frames owner
      let heap ← heap.drop owner
      return (.ok (.owner frame.depth (m.handlesOf owner)), { m with heap })

/-- Takes an operation.  There is no result if one of its loops does not end in time. -/
def step (m : Machine) : Operation → Option (Except Failure Answer × Machine)
  | .new => m.addHandle m.heap.new.1 m.heap.new.2
  | .onScope handle operation =>
    match m.scope? handle with
    | some x => m.scopeStep handle x operation
    | none => some (.error (.noScope handle), m)

/-- Takes operations, one after the other. -/
def run (m : Machine) : List Operation → Option Machine
  | [] => some m
  | operation :: rest => do
    let (_, m) ← m.step operation
    m.run rest

/-- A machine has the scopes of a session in memory, and its handles. -/
structure Represents (m : Machine) (s : Session) : Prop where
  heap : m.heap.Represents s.store
  handles_eq : m.handles = s.handles

variable {m m' : Machine} {s s' : Session} {heap : Heap} {store : Store} {e : ScopeId}
  {handle : Nat}

/-! ## Machines and sessions -/

/-- `start` has no scopes on either side. -/
theorem represents_start (clock : Nat) (seed : UInt64) : start.Represents (.start clock seed) :=
  ⟨⟨rfl, fun _ => .none⟩, rfl⟩

/-- `scope?` gives the same scopes for handles. -/
theorem Represents.scope?_eq (hr : m.Represents s) (handle : Nat) :
    m.scope? handle = s.scope? handle := congrArg (·[handle]?.join) hr.handles_eq

/-- `handlesOf` gives the same handles for scopes. -/
theorem Represents.handlesOf_eq (hr : m.Represents s) (x : ScopeId) :
    m.handlesOf x = s.handlesOf x := by
  rw [Machine.handlesOf, Session.handlesOf, hr.handles_eq]
  exact List.filter_congr fun handle _ => by rw [hr.scope?_eq]

/-- `addHandle` of the machine gives the handle that the session gives. -/
theorem Represents.addHandle (hr : m.Represents s) (hheap : heap.Represents store)
    (hx : store.Live x) : ∃ m',
      m.addHandle x heap = some ((Session.answerHandle { s with store } x).1, m') ∧
      m'.Represents (Session.answerHandle { s with store } x).2 := by
  obtain ⟨scope, hget⟩ := Store.live_iff.1 hx
  obtain ⟨frame, hframe, -⟩ := hheap.exists_frame hget
  refine ⟨⟨heap, m.handles.push (some x)⟩, ?_, hheap, congrArg (·.push (some x)) hr.handles_eq⟩
  rw [Machine.addHandle, hframe]
  simp only [Option.bind_eq_bind, Option.bind_some, hheap.depth_eq hframe, hr.handles_eq]
  rfl

/-- `answer` of an operation on a name is that of the session. -/
theorem Represents.answer {α : Type} (hr : m.Represents s) (hheap : heap.Represents store)
    (result : Except BindingError α) (f : α → Answer) :
    (m.answer (result, heap) f).1 = (Session.answerBinding (result, { s with store }) f).1 ∧
    (m.answer (result, heap) f).2.Represents
      (Session.answerBinding (result, { s with store }) f).2 :=
  ⟨rfl, hheap, hr.handles_eq⟩

/-- `Machine.scopeStep` answers an operation on a scope as the session answers the step that it is.
-/
theorem Represents.scopeStep (hr : m.Represents s) (hs : s.Sound) (he : s.scope? handle = some e)
    (operation : ScopeOperation) : ∃ m',
      m.scopeStep handle e operation = some ((s.scopeStep handle e operation.step).1, m') ∧
      m'.Represents (s.scopeStep handle e operation.step).2 := by
  have hlive := hs.live he
  have hheap := hr.heap
  cases operation with
  | child =>
    obtain ⟨heap, hchild, hopened⟩ := hheap.openInside hs hlive
    rw [Machine.scopeStep, hchild]
    exact hr.addHandle hopened (Store.live_openInside hlive hs)
  | clone =>
    obtain ⟨frame, hframe, -⟩ := hheap.exists_held hs hlive
    rw [Machine.scopeStep, Heap.clone_of_frames hframe]
    exact hr.addHandle (hheap.share e) (Store.live_retain.2 hlive)
  | parent =>
    rw [Machine.scopeStep, ScopeOperation.step, Session.scopeStep]
    cases hp : s.store.parent? e with
    | none =>
      rw [hheap.parent_none hs hlive hp]
      exact ⟨m, rfl, hr⟩
    | some p =>
      rw [hheap.parent_some hs hp]
      exact hr.addHandle (hheap.share p) (Store.live_retain.2 (Store.Held.of_inside hs hp).1)
  | root =>
    have hroot : s.store.Live (s.store.root e) :=
      Store.Held.live_of_mem_chain hs (Store.root_mem_chain hlive)
    rw [Machine.scopeStep, hheap.root_eq hs hlive]
    exact hr.addHandle (hheap.share _) (Store.live_retain.2 hroot)
  | drop =>
    -- The handle that is dropped is one of those that hold the scope.
    have hheld : s.store.Held (e ::ₘ (s.dropHandle handle).held) := Session.held_dropHandle he ▸ hs
    obtain ⟨heap, hdrop, hheap'⟩ := hheap.drop hheld
    rw [Machine.scopeStep, hdrop]
    refine ⟨_, rfl, ?_⟩
    show Machine.Represents _ (s.dropHandle handle)
    rw [Session.dropHandle_eq he]
    exact ⟨hheap', congrArg (·.modify handle fun _ => none) hr.handles_eq⟩
  | declare name value mutability =>
    obtain ⟨heap, hdeclare, hheap'⟩ := hheap.declare hs hlive name value mutability
    rw [Machine.scopeStep, hdeclare]
    exact ⟨_, rfl, hheap', hr.handles_eq⟩
  | assign name value =>
    obtain ⟨heap, hassign, hheap'⟩ := hheap.assign hs hlive name value
    rw [Machine.scopeStep, hassign]
    exact ⟨_, rfl, hheap', hr.handles_eq⟩
  | lookup name =>
    rw [Machine.scopeStep, hheap.lookup_eq hs hlive]
    exact ⟨_, rfl, hr⟩
  | isConstant name =>
    rw [Machine.scopeStep, hheap.isConstant_eq hs hlive]
    exact ⟨_, rfl, hr⟩
  | resolve name =>
    rw [Machine.scopeStep, hheap.resolve_eq hs hlive, ScopeOperation.step, Session.scopeStep]
    cases hresolve : s.store.resolve e name with
    | error failure => exact ⟨m, rfl, hr⟩
    | ok owner =>
      obtain ⟨frame, -, hframe, hdepth, hholds, -⟩ := hheap.exists_owner hs hresolve
      -- The handle to the owner is dropped again.
      simp only [Option.bind_eq_bind, Option.bind_some, Heap.Represents.holding,
        Heap.frames_share_self hframe, Heap.drop_share hframe hdepth hholds, hheap.depth_eq hframe,
        hr.handlesOf_eq]
      exact ⟨m, rfl, hr⟩

/-- `Machine.step` answers an operation as a session answers the step that it is, and goes on to
what represents the session that is left. -/
theorem Represents.step (hr : m.Represents s) (hs : s.Sound) (operation : Operation) : ∃ m',
    m.step operation = some ((s.step operation.step).1, m') ∧
    m'.Represents (s.step operation.step).2 := by
  cases operation with
  | new =>
    have hlive : s.store.addRoot.2.Live s.store.addRoot.1 := by
      rw [Store.Live, Store.addRoot, Store.get?_add, if_pos rfl]
      rfl
    obtain ⟨hid, hnew⟩ := hr.heap.new
    rw [Machine.step, hid]
    exact hr.addHandle hnew hlive
  | onScope handle operation =>
    rw [Machine.step, hr.scope?_eq, Operation.step, Session.step]
    cases he : s.scope? handle with
    | none => exact ⟨m, rfl, hr⟩
    | some e => exact hr.scopeStep hs he operation

/-- `Machine.run` takes any operations, and goes on to what represents the session that is left. -/
theorem Represents.run (hr : m.Represents s) (hs : s.Sound) (operations : List Operation) :
    ∃ m', m.run operations = some m' ∧ m'.Represents (s.run (operations.map Operation.step)) := by
  induction operations generalizing m s with
  | nil => exact ⟨m, rfl, hr⟩
  | cons operation rest ih =>
    obtain ⟨m₁, hstep, hr₁⟩ := hr.step hs operation
    obtain ⟨m₂, hrest, hr₂⟩ := ih hr₁ ((s.follows_step operation.step).sound hs)
    refine ⟨m₂, ?_, hr₂⟩
    rw [Machine.run, hstep]
    exact hrest

/-- `Machine.run` takes any operations, and none of their loops needs more rounds than the depth of
the scope where it starts.  The scopes in memory are then the nodes of a `Forest`, those of the
handles among them, and further operations keep the links, the depths and the names. -/
theorem forest_of_run (earlier later : List Operation) : ∃ m m',
    start.run earlier = some m ∧ m.run later = some m' ∧
    m.heap.Forest ∧ (∀ handle x, m.scope? handle = some x → (m.heap.frames x).isSome) ∧
    m.heap.Keeps m'.heap := by
  -- What holds of sessions is carried over; the clock and the seed do not matter to scopes.
  have hstart := Session.sound_start 0 0
  obtain ⟨m, hearlier, hr⟩ := (represents_start 0 0).run hstart earlier
  have hsound := (Session.follows_run _ (earlier.map Operation.step)).sound hstart
  obtain ⟨m', hlater, hr'⟩ := hr.run hsound later
  refine ⟨m, m', hearlier, hlater, hr.heap.forest hsound, fun handle x hx => ?_, ?_⟩
  · rw [hr.scope?_eq] at hx
    exact hr.heap.isSome_iff.2 (hsound.live hx)
  · exact hr.heap.keeps hr'.heap (Session.develops_run _ _)

/-- A scope without a handle of its own stays for the one inside it. -/
example : (start.run [.new, .onScope 0 .child, .onScope 0 .drop]).map
    (fun m => (m.heap.climb 1 ⟨1⟩, (m.heap.frames ⟨0⟩).map Frame.holds)) =
      some (some ⟨0⟩, some 1) := by decide

end Machine

end ScriptCore
