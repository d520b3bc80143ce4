import ScriptCore.Proofs.Scope.Chain

/-!
# How far the search for a name goes

The search for a name goes outwards, and looks at every scope up to the first one that declares the
name, or at all of them.  `Searches` says that it looks at a given scope.  What the search finds
depends on these scopes only, so a change elsewhere does not concern it.

* `searches_iff_mem`: the scopes before the owner, and the owner if there is one;
* `resolve_eq_ok_iff_searches`: the owner is the scope at which the search ends;
* `resolve_congr`: stores that agree on the scopes searched resolve the name alike.
-/

namespace ScriptCore.Store

/-- The search for a name from the first scope looks at the second one: this stands in the chain of
the first, and no scope that comes before it there declares the name. -/
def Searches (s : Store) (x : ScopeId) (name : String) (y : ScopeId) : Prop :=
  ∃ nearer further, s.chain x = nearer ++ y :: further ∧ ∀ z ∈ nearer, s.hasLocal z name = false

variable {s s' : Store} {x y : ScopeId} {name : String}

/-! ## Searching a list -/

section List

variable {α : Type} {l : List α} {a : α} {p q : α → Bool}

/-- What `takeWhile` and `find?` look at: all before the first hit, and the hit. -/
private theorem exists_eq_append_iff_mem : (∃ before after, l = before ++ a :: after ∧
    ∀ b ∈ before, p b = false) ↔ a ∈ l.takeWhile (! p ·) ∨ l.find? p = some a := by
  induction l with
  | nil => simp
  | cons b l ih =>
    cases hb : p b with
    | true =>
      -- The search ends here.
      simp only [List.takeWhile_cons, hb, Bool.not_true, List.find?_cons, List.not_mem_nil,
        false_or, Option.some.injEq, Bool.false_eq_true, if_false]
      constructor
      · rintro ⟨before, after, heq, hbefore⟩
        cases before with
        | nil => exact (List.cons.inj heq).1
        | cons c before =>
          cases (List.cons.inj heq).1
          cases hb.symm.trans (hbefore b List.mem_cons_self)
      · rintro rfl
        exact ⟨[], l, rfl, nofun⟩
    | false =>
      -- The search goes on behind the first one.
      simp only [List.takeWhile_cons, hb, Bool.not_false, if_true, List.mem_cons, List.find?_cons,
        or_assoc, ← ih]
      constructor
      · rintro ⟨before, after, heq, hbefore⟩
        cases before with
        | nil => exact .inl (List.cons.inj heq).1.symm
        | cons c before =>
          exact .inr ⟨before, after, (List.cons.inj heq).2,
            fun d hd => hbefore d (List.mem_cons_of_mem c hd)⟩
      · rintro (rfl | ⟨before, after, rfl, hbefore⟩)
        · exact ⟨[], l, rfl, nofun⟩
        · exact ⟨b :: before, after, rfl, List.forall_mem_cons.2 ⟨hb, hbefore⟩⟩

/-- `find?` has the same hit for two tests that agree on what the second search looks at. -/
private theorem find?_congr_of_looked (h : ∀ before b after, l = before ++ b :: after →
    (∀ c ∈ before, q c = false) → p b = q b) : l.find? p = l.find? q := by
  induction l with
  | nil => rfl
  | cons a l ih =>
    have hfirst : p a = q a := h [] a l rfl nofun
    rw [List.find?_cons, List.find?_cons, hfirst]
    cases ha : q a with
    | true => rfl
    | false =>
      refine ih fun before b after heq hbefore => ?_
      exact h (a :: before) b after (by rw [heq, List.cons_append])
        (List.forall_mem_cons.2 ⟨ha, hbefore⟩)

end List

/-! ## Searching a chain -/

/-- `Searches` is about the scopes that come before the owner, and the owner; and if there is no
owner, about all scopes. -/
theorem searches_iff_mem : s.Searches x name y ↔
    y ∈ (s.chain x).takeWhile (! s.hasLocal · name) ∨ s.resolve x name = .ok y := by
  rw [Searches, exists_eq_append_iff_mem, resolve_eq_ok_iff]

instance (s : Store) (x : ScopeId) (name : String) (y : ScopeId) :
    Decidable (s.Searches x name y) := decidable_of_iff _ searches_iff_mem.symm

/-- `Searches` does not leave the chain. -/
theorem Searches.mem_chain (h : s.Searches x name y) : y ∈ s.chain x := by
  obtain ⟨nearer, further, hchain, -⟩ := h
  rw [hchain]
  exact List.mem_append_right _ List.mem_cons_self

/-- `resolve` gives the scope where the search ends. -/
theorem resolve_eq_ok_iff_searches :
    s.resolve x name = .ok y ↔ s.Searches x name y ∧ s.hasLocal y name = true := by
  rw [resolve_eq_ok_iff, List.find?_eq_some_iff_append, Searches]
  simp only [Bool.not_eq_eq_eq_not, Bool.not_true]
  exact and_comm

/-- `resolve` gives the same in a store with the same chain, if the scopes searched agree on whether
they declare the name. -/
theorem resolve_congr (hchain : s'.chain x = s.chain x)
    (hlocal : ∀ y, s.Searches x name y → s'.hasLocal y name = s.hasLocal y name) :
    s'.resolve x name = s.resolve x name := by
  have hfind : (s.chain x).find? (s'.hasLocal · name) = (s.chain x).find? (s.hasLocal · name) :=
    find?_congr_of_looked fun before y after heq hbefore =>
      hlocal y ⟨before, after, heq, hbefore⟩
  rw [resolve, resolve, hchain, hfind]

end ScriptCore.Store
