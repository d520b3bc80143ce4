import Mathlib.Logic.Relation
import ScriptCore.Proofs.Scope.Hold

/-!
# Changes of a store

Whatever is done to a store is made of six changes: a scope is opened, as an outermost one or inside
another one, or held once more, or a hold on it is given up; a name is declared in it, or another
value is assigned to one.  `Change` lists them, each with what it does to the handles.

* `Reaches.held`: the account of holds stays right through any number of changes;
* `Develops`, `Reaches.develops`: a scope keeps what is around it and all its bindings as long as it
  is there, and a constant keeps its value.
-/

namespace ScriptCore

namespace Store

/-! ## What stays -/

/-- The second store has come of the first one: what is left of that is as it was, except for values
that could be assigned to. -/
structure Develops (s s' : Store) : Prop where
  size_le : s.scopes.size ≤ s'.scopes.size
  /-- A number is not used again: no scope that was gone is there. -/
  live_of_live : ∀ {x}, s'.Live x → x.index < s.scopes.size → s.Live x
  chain_eq : ∀ {x}, s.Live x → s'.Live x → s'.chain x = s.chain x
  /-- No binding goes, and a constant keeps its value. -/
  binding_of_binding : ∀ {x name b}, s'.Live x → s.binding? x name = some b →
    ∃ value, s'.binding? x name = some { b with value } ∧
      (b.mutability = .constant → value = b.value)

variable {s s' s'' : Store} {id x : ScopeId} {name : String} {b : Binding}

/-- `Develops` holds between a store and itself. -/
theorem Develops.refl (s : Store) : s.Develops s :=
  ⟨Nat.le_refl _, fun h _ => h, fun _ _ => rfl, fun _ hb => ⟨_, hb, fun _ => rfl⟩⟩

/-- `Develops` goes on from store to store. -/
theorem Develops.trans (h₁ : s.Develops s') (h₂ : s'.Develops s'') : s.Develops s'' := by
  -- A scope of the first store that is in the last one was there all the time.
  have hbetween {x : ScopeId} (hx : s.Live x) (hx'' : s''.Live x) : s'.Live x :=
    h₂.live_of_live hx'' (Nat.lt_of_lt_of_le hx.index_lt h₁.size_le)
  refine ⟨Nat.le_trans h₁.size_le h₂.size_le, ?_, ?_, ?_⟩
  · intro x hx'' hlt
    exact h₁.live_of_live (h₂.live_of_live hx'' (Nat.lt_of_lt_of_le hlt h₁.size_le)) hlt
  · intro x hx hx''
    have hx' := hbetween hx hx''
    rw [h₂.chain_eq hx' hx'', h₁.chain_eq hx hx']
  · intro x name b hx'' hb
    have hx' := hbetween (live_of_binding? hb) hx''
    obtain ⟨value, hb', hconstant⟩ := h₁.binding_of_binding hx' hb
    obtain ⟨value', hb'', hconstant'⟩ := h₂.binding_of_binding hx'' hb'
    exact ⟨value', hb'', fun hm => (hconstant' hm).trans (hconstant hm)⟩

/-- `Develops` keeps a constant what it is as long as its scope is there. -/
theorem Develops.constant (h : s.Develops s') (hlive : s'.Live x)
    (hb : s.binding? x name = some b) (hm : b.mutability = .constant) :
    s'.binding? x name = some b := by
  obtain ⟨value, hb', hvalue⟩ := h.binding_of_binding hlive hb
  rw [hb', hvalue hm]

/-- `Within` changes nothing of what stays: scopes are only released and held. -/
theorem Within.develops (h : s'.Within s) : s.Develops s' := by
  refine ⟨h.size_eq.ge, fun hx _ => h.live hx, fun _ hx => h.chain_eq hx, ?_⟩
  intro x name b hx hb
  exact ⟨b.value, (h.binding?_eq hx name).trans hb, fun _ => rfl⟩

/-- `add` puts a scope in the place of none. -/
theorem develops_add (s : Store) (scope : Scope) : s.Develops (s.add scope).2 := by
  have hold {x : ScopeId} (hx : x.index < s.scopes.size) : (s.add scope).2.get? x = s.get? x := by
    have hne : x ≠ (s.add scope).1 := fun heq => by
      rw [heq] at hx
      exact Nat.lt_irrefl _ hx
    rw [get?_add, if_neg hne]
  refine ⟨?_, ?_, ?_, ?_⟩
  · rw [add, Array.size_push]
    omega
  · intro x hx hlt
    rwa [Live, hold hlt] at hx
  · intro x hx _
    rw [chain, chain, hold hx.index_lt]
  · intro x name b _ hb
    refine ⟨b.value, ?_, fun _ => rfl⟩
    rw [binding?, bindings, hold (live_of_binding? hb).index_lt]
    exact hb

/-- `rebind` of one scope leaves the others as they were. -/
private theorem develops_rebind {f : Bindings → Bindings}
    (hf : s.Live id → ∀ {name b}, s.binding? id name = some b →
      ∃ value, (s.rebind id f).binding? id name = some { b with value } ∧
        (b.mutability = .constant → value = b.value)) : s.Develops (s.rebind id f) := by
  refine ⟨?_, fun hx _ => live_rebind.1 hx, fun _ _ => chain_rebind s id f _, ?_⟩
  · rw [rebind, modify, Array.size_modify]
  · intro x name b hx hb
    by_cases heq : x = id
    · rw [heq] at hx hb ⊢
      exact hf (live_rebind.1 hx) hb
    · refine ⟨b.value, ?_, fun _ => rfl⟩
      rw [binding?, bindings, get?_rebind, if_neg heq]
      exact hb

/-- `insert` puts a new binding in the place of none. -/
theorem develops_insert (hnew : s.binding? id b.name = none) :
    s.Develops (s.rebind id (·.insert b)) := by
  refine develops_rebind fun hlive {name before} hb => ⟨before.value, ?_, fun _ => rfl⟩
  have hother : ¬ (id = id ∧ name = b.name) := by
    rintro ⟨-, rfl⟩
    rw [hnew] at hb
    cases hb
  rw [binding?_rebind_insert hlive hnew, if_neg hother, hb]

/-- `update` of a mutable binding changes no constant. -/
theorem develops_update (hb : s.binding? id name = some b) (hm : b.mutability = .mutable)
    (value : Value) : s.Develops (s.rebind id (·.update name value)) := by
  refine develops_rebind fun hlive {name' before} hbefore => ?_
  rw [binding?_rebind_update hlive]
  -- The binding that is updated is mutable; all others stay as they are.
  by_cases hboth : id = id ∧ name' = name
  · obtain ⟨-, rfl⟩ := hboth
    cases hb.symm.trans hbefore
    refine ⟨value, ?_, fun hconstant => ?_⟩
    · rw [if_pos ⟨rfl, rfl⟩, hb, Option.map_some]
    · rw [hm] at hconstant
      cases hconstant
  · rw [if_neg hboth]
    exact ⟨before.value, hbefore, fun _ => rfl⟩

end Store

/-! ## Changes -/

/-- A store, and the scopes that handles stand for, once for each handle. -/
abbrev Account := Store × Multiset ScopeId

/-- What can be done to a store and to the handles. -/
inductive Change : Account → Account → Prop where
  /-- A new outermost scope gets a handle. -/
  | opened {s : Store} {handles : Multiset ScopeId} :
    Change (s, handles) (s.addRoot.2, s.addRoot.1 ::ₘ handles)
  /-- A new scope inside that of a handle gets a handle. -/
  | inside {s : Store} {handles : Multiset ScopeId} {id : ScopeId} : id ∈ handles →
    Change (s, handles) ((s.addChild id).2, (s.addChild id).1 ::ₘ handles)
  /-- The scope of a handle, or one around it, gets another handle. -/
  | retained {s : Store} {handles : Multiset ScopeId} {id x : ScopeId} : id ∈ handles →
    x = id ∨ x ∈ s.chain id → Change (s, handles) (s.retain x, x ::ₘ handles)
  | released {s : Store} {handles : Multiset ScopeId} {id : ScopeId} :
    Change (s, id ::ₘ handles) (s.release id, handles)
  | declared {s : Store} {handles : Multiset ScopeId} {id : ScopeId} {b : Binding} :
    s.binding? id b.name = none → Change (s, handles) (s.rebind id (·.insert b), handles)
  | assigned {s : Store} {handles : Multiset ScopeId} {id : ScopeId} {name : String} {b : Binding}
    {value : Value} : s.binding? id name = some b → b.mutability = .mutable →
    Change (s, handles) (s.rebind id (·.update name value), handles)

/-- One account comes of another by changes, one after the other. -/
abbrev Reaches : Account → Account → Prop := Relation.ReflTransGen Change

variable {a a' : Account}

/-- A change keeps the account of holds right. -/
theorem Change.held (h : Change a a') (ha : a.1.Held a.2) : a'.1.Held a'.2 := by
  cases h with
  | opened => exact ha.addRoot
  | inside hid => exact ha.addChild (ha.live _ hid)
  | retained hid hx =>
    refine ha.retain ?_
    rcases hx with rfl | hx
    · exact ha.live _ hid
    · exact ha.live_of_mem_chain hx
  | released => exact ha.release
  | @declared s handles id b => exact Store.Held.rebind ha id (·.insert b)
  | @assigned s handles id name b value => exact Store.Held.rebind ha id (·.update name value)

/-- A change leaves what stays as it was. -/
theorem Change.develops (h : Change a a') : a.1.Develops a'.1 := by
  cases h with
  | opened => exact Store.develops_add _ _
  | @inside s _ id =>
    exact (Store.within_retain s id).develops.trans (Store.develops_add _ _)
  | retained => exact (Store.within_retain _ _).develops
  | released => exact (Store.within_release _ _).develops
  | declared hnew => exact Store.develops_insert hnew
  | assigned hb hm => exact Store.develops_update hb hm _

/-- `Reaches` keeps the account of holds right. -/
theorem Reaches.held (h : Reaches a a') (ha : a.1.Held a.2) : a'.1.Held a'.2 := by
  induction h with
  | refl => exact ha
  | tail _ hchange ih => exact hchange.held ih

/-- `Reaches` leaves what stays as it was. -/
theorem Reaches.develops (h : Reaches a a') : a.1.Develops a'.1 := by
  induction h with
  | refl => exact Store.Develops.refl _
  | tail _ hchange ih => exact ih.trans hchange.develops

end ScriptCore
