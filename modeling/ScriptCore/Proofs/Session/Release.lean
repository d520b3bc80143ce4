import ScriptCore.Proofs.Scope.Release
import ScriptCore.Proofs.Session.Block

/-!
# Giving handles up

Whatever the steps of a session, the living scopes are those that a handle reaches, and the holds of
each are counted.  Dropping a handle keeps that so: it frees the scopes that only this handle reached,
and leaves the others as they were.

* `Counted`: what holds of a session at any time;
* `Drops`: what dropping a handle does;
* `counted_of_reachable`: both, for any session that has come about by steps.
-/

namespace ScriptCore.Session

variable {s s' : Session} {handle : Nat} {e x : ScopeId}

/-- `Counted` sessions have alive those scopes that a handle reaches, and count their `holds`. -/
structure Counted (s : Session) : Prop where
  live_iff : ∀ x, s.store.Live x ↔ ∃ handle e, s.scope? handle = some e ∧ s.store.Outward e x
  /-- The holds are the handles to a scope and the living scopes directly inside it. -/
  holds_eq : ∀ x scope, s.store.get? x = some scope →
    scope.holds = (s.handlesOf x).length + (s.store.innerScopes x).length
  /-- The scopes around a living one are alive. -/
  live_of_outward : ∀ x p, s.store.Live x → s.store.Outward x p → s.store.Live p

/-- `Drops s handle e s'` says what `drop` leaves: `s'` is `s` without `handle`, which was one to
the scope `e`. -/
structure Drops (s : Session) (handle : Nat) (e : ScopeId) (s' : Session) : Prop where
  /-- The other handles stand for what they stood for. -/
  scope?_eq : ∀ other, s'.scope? other = if other = handle then none else s.scope? other
  counted : s'.Counted
  /-- The loop that gives up the hold and unlinks scopes ends there. -/
  unlinks : ∃ rounds ≤ s.store.depth e, s.store.Unlinks (some e) rounds s'.store
  /-- It stops at the first scope that something else holds. -/
  frees : ∃ gone kept, s.store.chain e = gone ++ kept ∧ s.store.Frees s'.store gone kept
  /-- The scopes that are left are as they were. -/
  survives : ∀ x, s'.store.Live x → s'.store.bindings x = s.store.bindings x ∧
    s'.store.constants x = s.store.constants x ∧ s'.store.parent? x = s.store.parent? x ∧
    s'.store.depth x = s.store.depth x

/-- `held` lists the scopes that handles stand for. -/
theorem mem_held_iff : e ∈ s.held ↔ ∃ handle, s.scope? handle = some e :=
  ⟨exists_handle_of_mem_held, fun ⟨_, he⟩ => mem_held he⟩

/-- `held` lists a scope once for each of `handlesOf` it. -/
theorem count_held (s : Session) (x : ScopeId) : s.held.count x = (s.handlesOf x).length :=
  Store.count_filterMap id s.handles x

/-- `Sound` sessions are `Counted`. -/
theorem Sound.counted (hs : s.Sound) : s.Counted where
  live_iff x := by
    rw [Store.Held.live_iff hs]
    simp only [mem_held_iff]
    exact ⟨fun ⟨e, ⟨handle, he⟩, hx⟩ => ⟨handle, e, he, hx⟩,
      fun ⟨handle, e, he, hx⟩ => ⟨e, ⟨handle, he⟩, hx⟩⟩
  holds_eq x scope hget := by rw [Store.Held.holds_eq hs hget, count_held]
  live_of_outward _ _ hx hp := Store.Held.live_of_outward hs hx hp

/-- `dropHandle` takes the handle away and no other one. -/
theorem scope?_dropHandle (he : s.scope? handle = some e) (other : Nat) :
    (s.dropHandle handle).scope? other = if other = handle then none else s.scope? other := by
  rw [scope?, dropHandle_eq he, Array.getElem?_modify]
  by_cases hother : other = handle
  · rw [if_pos hother.symm, if_pos hother]
    cases s.handles[other]? <;> rfl
  · rw [if_neg (Ne.symm hother), if_neg hother, scope?]

/-- `Drops` is what `dropHandle` does in a `Sound` session. -/
theorem Sound.drops (hs : s.Sound) (he : s.scope? handle = some e) :
    s.Drops handle e (s.dropHandle handle) := by
  -- The hold to be given up is the one of the handle, so the others are the holds of the session
  -- after.
  have hheld : s.store.Held (e ::ₘ (s.dropHandle handle).held) := held_dropHandle he ▸ hs
  have hstore : (s.dropHandle handle).store = s.store.release e := by rw [dropHandle_eq he]
  have hwithin := Store.within_release s.store e
  have hsound : (s.dropHandle handle).Sound := by
    rw [Sound, hstore]
    exact hheld.release
  refine ⟨scope?_dropHandle he, hsound.counted, ?_, ?_, ?_⟩
  · rw [hstore]
    exact hheld.unlinks
  · rw [hstore]
    exact hheld.frees
  -- Scopes that are left kept their bindings and the scopes around them, and all else follows.
  · intro x hx
    rw [hstore] at hx ⊢
    have hbindings := hwithin.bindings_eq hx
    have hchain := hwithin.chain_eq hx
    simp only [Store.constants, Store.parent?, Store.depth, hbindings, hchain, and_self]

/-- In a reachable session the living scopes are those that a handle reaches, their holds are counted,
and dropping a handle keeps that so. -/
theorem counted_of_reachable (hs : s.Reachable) : s.Counted ∧
    ∀ handle e, s.scope? handle = some e →
      s.Drops handle e (s.step (.onScope handle .drop)).2 := by
  refine ⟨hs.sound.counted, ?_⟩
  intro handle e he
  rw [step_onScope he]
  exact hs.sound.drops he

/-- The scope in the middle goes with the innermost one, and the outermost one stays for its handle. -/
theorem counted_of_reachable_middle :
    let s := (start 0 0).run [.newRoot, .onScope 0 (.declare "x" (.value .null) .constant),
      .onScope 0 (.child 1), .onScope 1 (.child 1), .onScope 1 .drop]
    let s' := (s.step (.onScope 2 .drop)).2
    s.scope? 2 = some ⟨2⟩ ∧ s.store.Live ⟨1⟩ ∧ ¬s'.store.Live ⟨1⟩ ∧ s'.store.Live ⟨0⟩ ∧
      s'.store.constants ⟨0⟩ = ["x"] := by
  intro s s'
  have hs : s.Reachable := ⟨0, 0, _, rfl⟩
  have he : s.scope? 2 = some ⟨2⟩ := by decide
  obtain ⟨hcounted, hdrops⟩ := counted_of_reachable hs
  have hafter : s.Drops 2 ⟨2⟩ s' := hdrops 2 ⟨2⟩ he
  -- The handle to the innermost scope reaches the one in the middle, so that is alive before.
  have hparent : s.store.parent? ⟨2⟩ = some ⟨1⟩ := by decide
  have hmiddle : s.store.Outward ⟨2⟩ ⟨1⟩ := .single hparent
  have houter : s'.store.Live ⟨0⟩ := (hafter.counted.live_iff ⟨0⟩).2 ⟨0, ⟨0⟩, by decide, .refl⟩
  refine ⟨he, (hcounted.live_iff ⟨1⟩).2 ⟨2, ⟨2⟩, he, hmiddle⟩, by decide, houter, ?_⟩
  rw [(hafter.survives ⟨0⟩ houter).2.1]
  decide

end ScriptCore.Session
