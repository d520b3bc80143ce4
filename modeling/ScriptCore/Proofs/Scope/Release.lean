import ScriptCore.Proofs.Scope.Owner

/-!
# Giving scopes up

A scope that nothing holds any longer goes, and gives up its own hold on the scope around it.  That is
done in a loop, scope by scope outwards, so that a long chain needs no deep recursion.  The loop
removes what nothing reaches and no more.

* `Held.live_iff`: a scope is alive if it is around the scope of a handle, or is that scope;
* `Held.holds_eq`: its holds are the handles to it and the living scopes directly inside it;
* `Unlinks`: the loop, round by round;
* `Frees`: what becomes of the store, up to the first scope that something else holds;
* `Held.unlinks`, `Held.frees`: the loop ends, and it does that.
-/

namespace ScriptCore.Store

variable {s s' : Store} {id x p : ScopeId} {scope : Scope} {handles : Multiset ScopeId}
  {gone kept : List ScopeId}

/-! ## What is alive -/

/-- The living scopes directly inside a scope, in the order in which they were made. -/
def innerScopes (s : Store) (p : ScopeId) : List ScopeId :=
  ((List.range s.scopes.size).map ScopeId.mk).filter fun x => s.parent? x = some p

/-- `parent?` of what is at a number is that of the number. -/
theorem get?_bind_parent? (s : Store) (id : ScopeId) :
    (s.get? id).bind Scope.parent? = s.parent? id := by
  rw [parent?, chain]
  cases s.get? id <;> rfl

/-- `parents` has a scope once for each scope directly inside it. -/
theorem count_parents (s : Store) (p : ScopeId) :
    s.parents.count p = (s.innerScopes p).length := by
  rw [parents, count_filterMap, innerScopes, List.filter_map, List.length_map]
  simp only [← get?_bind_parent?]
  rfl

/-- `holds` of a scope are the handles to it and the scopes directly inside it. -/
theorem Held.holds_eq (h : s.Held handles) (hget : s.get? x = some scope) :
    scope.holds = handles.count x + (s.innerScopes x).length := by
  rw [h.counted hget, Multiset.count_add, count_parents]

/-- Scopes that are `Outward` of a living one are alive. -/
theorem Held.live_of_outward (h : s.Held handles) (hx : s.Live x) (hp : s.Outward x p) :
    s.Live p := by
  induction hp with
  | refl => exact hx
  | tail _ hinside _ => exact (h.of_inside hinside).1

/-- `Live` scopes are those that a handle reaches. -/
theorem Held.live_iff (h : s.Held handles) : s.Live x ↔ ∃ e ∈ handles, s.Outward e x := by
  constructor
  · intro hx
    -- A scope without a handle has one inside it, which is younger.
    induction hn : s.scopes.size - x.index using Nat.strongRecOn generalizing x with
    | ind n ih =>
      obtain ⟨scope, hget⟩ := Store.live_iff.1 hx
      have hholds := h.counted hget
      have hpos := h.positive hget
      have hmem : x ∈ handles + s.parents := by
        rw [← Multiset.count_pos]
        omega
      -- The hold is that of a handle, or of a scope inside.
      cases Multiset.mem_add.1 hmem with
      | inl hhandle => exact ⟨x, hhandle, .refl⟩
      | inr hparent =>
        obtain ⟨y, inner, hy, hp⟩ := mem_parents.1 hparent
        have hinside : s.Inside y x := by
          rw [Inside, parent?, chain_of_get? hy]
          exact hp
        have hlt := (h.of_inside hinside).2.1
        have hyoung := hinside.live.index_lt
        obtain ⟨e, he, hreach⟩ := ih (s.scopes.size - y.index) (by omega) hinside.live rfl
        exact ⟨e, he, hreach.tail hinside⟩
  · rintro ⟨e, he, hreach⟩
    exact h.live_of_outward (h.live e he) hreach

/-! ## The loop -/

/-- One round of the loop.  The hold on a scope is given up; if it was the last one, the scope is
removed, and the next round gives up its hold on the scope around it. -/
def unlink (s : Store) (id : ScopeId) : Option ScopeId × Store :=
  match s.get? id with
  | some scope =>
    if scope.holds = 1 then (scope.parent?, s.remove id)
    else (none, s.modify id fun scope => { scope with holds := scope.holds - 1 })
  | none => (none, s)

/-- The loop takes so many rounds, from a hold that is given up on until there is none. -/
inductive Unlinks : Store → Option ScopeId → Nat → Store → Prop where
  | ended (s : Store) : Unlinks s none 0 s
  | round {s s' : Store} {id : ScopeId} {rounds : Nat}
    (h : Unlinks (s.unlink id).2 (s.unlink id).1 rounds s') : Unlinks s (some id) (rounds + 1) s'

/-- `Unlinks` ends after no more rounds than there are scopes from the first one outwards, and it
leaves what a release leaves. -/
theorem Held.unlinks (h : s.Held (id ::ₘ handles)) :
    ∃ rounds ≤ s.depth id, Unlinks s (some id) rounds (s.release id) := by
  induction hn : id.index using Nat.strongRecOn generalizing s id with
  | ind n ih =>
    obtain ⟨scope, hget, hcases⟩ := h.release_cases
    have hpos := depth_pos (live_of_get? hget)
    have hround (hone : scope.holds = 1) : s.unlink id = (scope.parent?, s.remove id) := by
      rw [unlink, hget]
      exact if_pos hone
    obtain ⟨hmore, hrelease⟩ | ⟨hone, hp, hrelease⟩ | ⟨hone, p, hp, hlt, hchain, hheld, hrelease⟩ := hcases
    · have hstop : s.unlink id = (none, s.release id) := by
        rw [unlink, hget, hrelease]
        exact if_neg hmore.ne'
      refine ⟨1, hpos, .round ?_⟩
      rw [hstop]
      exact .ended _
    · refine ⟨1, hpos, .round ?_⟩
      rw [hround hone, hp, hrelease]
      exact .ended _
    -- The scope around is one round nearer to the end.
    · obtain ⟨rounds, hle, hloop⟩ := ih p.index (hn ▸ hlt) hheld rfl
      refine ⟨rounds + 1, ?_, .round ?_⟩
      · rw [depth] at hle ⊢
        rw [hchain, List.length_cons]
        omega
      · rw [hround hone, hp, hrelease]
        exact hloop

/-! ## What it does -/

/-- The scopes that are gone were held by nothing else than what went before them; the first one that
is kept on the way outwards was held by something else, which holds it still.  Nothing else is
touched. -/
structure Frees (s s' : Store) (gone kept : List ScopeId) : Prop where
  live_iff : ∀ x, s'.Live x ↔ s.Live x ∧ x ∉ gone
  last : ∀ x ∈ gone, ∃ scope, s.get? x = some scope ∧ scope.holds = 1
  stop : ∀ x ∈ kept.head?, ∃ scope, s.get? x = some scope ∧ 1 < scope.holds ∧
    s'.get? x = some { scope with holds := scope.holds - 1 }
  unchanged : ∀ x, x ∉ gone → x ∉ kept.head? → s'.get? x = s.get? x

/-- `Frees` nothing if there is nothing to give up. -/
theorem Frees.refl (s : Store) : s.Frees s [] [] where
  live_iff x := by simp
  last x hx := by cases hx
  stop x hx := by cases hx
  unchanged _ _ _ := rfl

/-- `Frees` one scope more, if a hold that is given up first makes that scope go. -/
theorem Frees.cons (h : (s.remove id).Frees s' gone kept) (hget : s.get? id = some scope)
    (hone : scope.holds = 1) : s.Frees s' (id :: gone) kept where
  live_iff x := by
    rw [h.live_iff, Live, get?_remove, List.mem_cons, not_or]
    by_cases hx : x = id <;> simp [hx, Live]
  last x hx := by
    cases List.mem_cons.1 hx with
    | inl heq => exact ⟨scope, heq ▸ hget, hone⟩
    | inr hgone =>
      obtain ⟨inner, hinner, hone'⟩ := h.last x hgone
      rw [get?_remove] at hinner
      split at hinner
      · cases hinner
      · exact ⟨inner, hinner, hone'⟩
  stop x hx := by
    obtain ⟨outer, houter, hmore, hafter⟩ := h.stop x hx
    rw [get?_remove] at houter
    split at houter
    · cases houter
    · exact ⟨outer, houter, hmore, hafter⟩
  unchanged x hx hkept := by
    rw [List.mem_cons, not_or] at hx
    rw [h.unchanged x hx.2 hkept, get?_remove, if_neg hx.1]

/-- `Frees` holds of a release for the first scopes of the chain, up to one that something else
holds. -/
theorem Held.frees (h : s.Held (id ::ₘ handles)) :
    ∃ gone kept, s.chain id = gone ++ kept ∧ s.Frees (s.release id) gone kept := by
  induction hn : id.index using Nat.strongRecOn generalizing s id with
  | ind n ih =>
    obtain ⟨scope, hget, hcases⟩ := h.release_cases
    obtain ⟨hmore, hrelease⟩ | ⟨hone, hp, hrelease⟩ | ⟨hone, p, -, hlt, hchain, hheld, hrelease⟩ :=
      hcases
    · -- Something else holds the scope, so it stays.
      refine ⟨[], s.chain id, rfl, ?_⟩
      have hfirst : (s.chain id).head? = some id := by
        rw [chain_of_get? hget]
        rfl
      rw [hrelease]
      constructor
      · intro x
        rw [live_modify]
        simp
      · intro x hx
        cases hx
      · intro x hx
        obtain rfl : id = x := by simpa [hfirst] using hx
        exact ⟨scope, hget, hmore, by rw [get?_modify, if_pos rfl, hget]; rfl⟩
      · intro x _ hx
        rw [get?_modify, if_neg]
        rintro rfl
        exact hx hfirst
    · -- Nothing is around the scope.
      refine ⟨[id], [], ?_, ?_⟩
      · rw [chain_of_get? hget, List.head?_eq_none_iff.1 hp]
        rfl
      · rw [hrelease]
        exact (Frees.refl (s.remove id)).cons hget hone
    -- The scope goes, and the rest of the loop is that from the scope around.
    · obtain ⟨gone, kept, hsplit, hfrees⟩ := ih p.index (hn ▸ hlt) hheld rfl
      refine ⟨id :: gone, kept, ?_, ?_⟩
      · rw [hchain, hsplit]
        rfl
      · rw [hrelease]
        exact hfrees.cons hget hone

end ScriptCore.Store
