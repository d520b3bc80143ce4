import ScriptCore.Proofs.Scope.Effect
import ScriptCore.Proofs.Scope.Owner

/-!
# Writes that do not disturb each other

A write, a declaration or an assignment, looks at some scopes and then writes to one of them or
fails.  Two writes are independent if they are about different names, or if neither writes to a scope
that the other looks at.  Independent writes can change places: each answers what it answers when it
comes first, and the same bindings result.

* `Write.run_eq`: what a write does is settled by its target, or by why it has none;
* `Write.target_congr`, `Write.target_after`: the target of a write stays through an independent one;
* `Store.Alike`: the same scopes, with the same bindings as a map;
* `Store.run_comm`: independent writes commute.
-/

namespace ScriptCore

/-- A declaration in a scope, or an assignment from it. -/
inductive Write where
  | declare (scope : ScopeId) (name : String) (value : Value) (mutability : Mutability)
  | assign (scope : ScopeId) (name : String) (value : Value)

namespace Write

/-- The scope that a write is done through. -/
def scope : Write → ScopeId
  | declare scope .. | assign scope .. => scope

/-- The name that is written. -/
def name : Write → String
  | declare _ name .. | assign _ name _ => name

/-- The value that is written. -/
def value : Write → Value
  | declare _ _ value _ | assign _ _ value => value

/-- Carries a write out. -/
def run (s : Store) : Write → Except BindingError Value × Store
  | declare scope name value mutability => s.declare scope name value mutability
  | assign scope name value => s.assign scope name value

/-- The scopes that a write looks at: a declaration at its own scope, and an assignment at the scopes
up to the owner of the name, or at all of them if the name has none. -/
def Inspects (s : Store) : Write → ScopeId → Prop
  | declare scope .., y => y = scope
  | assign scope name _, y => s.Searches scope name y

/-- The scope that a write writes to, or why it fails. -/
def target (s : Store) : Write → Except BindingError ScopeId
  | declare scope name .. => if s.hasLocal scope name then .error (.duplicate name) else .ok scope
  | assign scope name _ =>
    match s.resolve scope name with
    | .error e => .error e
    | .ok owner => if name ∈ s.constants owner then .error (.immutable name) else .ok owner

/-- What a write does to the bindings of its target. -/
def rebind : Write → Bindings → Bindings
  | declare _ name value mutability => (·.insert ⟨name, value, mutability⟩)
  | assign _ name value => (·.update name value)

/-- The first write does not write to a scope that the second one looks at. -/
def Spares (s : Store) (a b : Write) : Prop := ∀ y, a.target s = .ok y → ¬ b.Inspects s y

/-- The writes are about different names, or neither writes to a scope that the other looks at. -/
def Independent (s : Store) (a b : Write) : Prop :=
  a.name ≠ b.name ∨ (a.Spares s b ∧ b.Spares s a)

variable {s s' : Store} {a b w : Write} {x y z : ScopeId} {name : String}

/-- `Independent` does not depend on which write is the first. -/
theorem Independent.symm (h : Independent s a b) : Independent s b a :=
  h.imp Ne.symm And.symm

/-! ## Targets -/

/-- `target` settles what a write does. -/
theorem run_eq (s : Store) (w : Write) : w.run s =
    match w.target s with
    | .error e => (.error e, s)
    | .ok y => (.ok w.value, s.rebind y w.rebind) := by
  cases w with
  -- A declaration is decided by whether its own scope has the name.
  | declare scope name value m =>
    rw [run, target, Store.hasLocal_eq]
    rcases s.declare_cases scope name value m with ⟨b, hb, heq⟩ | ⟨hnone, heq⟩
    · rw [heq, hb]
      rfl
    · rw [heq, hnone]
      rfl
  -- An assignment is decided by the owner of the name, and by whether it is a constant there.
  | assign scope name value =>
    rw [run, target]
    cases howner : s.resolve scope name with
    | error e => exact Store.assign_of_unresolved howner
    | ok owner =>
      obtain ⟨b, hb⟩ := Store.exists_binding_of_resolve howner
      simp only [Store.mem_constants_of_binding? hb]
      cases hm : b.mutability with
      | constant => exact Store.assign_of_constant howner hb hm
      | mutable => exact Store.assign_of_mutable howner hb hm

/-- A write with a `target` rebinds it and answers with the value that is written. -/
theorem run_of_ok (h : w.target s = .ok y) : w.run s = (.ok w.value, s.rebind y w.rebind) := by
  rw [run_eq, h]

/-- A write without a `target` changes nothing. -/
theorem run_of_error {e : BindingError} (h : w.target s = .error e) : w.run s = (.error e, s) := by
  rw [run_eq, h]

/-- `target` of a declaration is its own scope, if the scope has not declared the name. -/
theorem target_declare_eq_ok_iff {value : Value} {m : Mutability} :
    (declare x name value m).target s = .ok y ↔ y = x ∧ s.binding? y name = none := by
  rw [target, Store.hasLocal_eq]
  split
  next hbound =>
    refine iff_of_false nofun ?_
    rintro ⟨rfl, hnone⟩
    rw [hnone] at hbound
    cases hbound
  next hfree =>
    constructor
    · intro heq
      cases heq
      exact ⟨rfl, Option.not_isSome_iff_eq_none.1 hfree⟩
    · rintro ⟨rfl, -⟩
      rfl

/-- `target` of an assignment is the owner of the name, if the name is no constant there. -/
theorem target_assign_eq_ok_iff {value : Value} :
    (assign x name value).target s = .ok y ↔ s.resolve x name = .ok y ∧ name ∉ s.constants y := by
  rw [target]
  cases s.resolve x name with
  | error e => exact iff_of_false nofun (fun h => nomatch h.1)
  | ok owner =>
    dsimp only
    split
    next hconstant =>
      refine iff_of_false nofun ?_
      rintro ⟨heq, hfree⟩
      cases heq
      exact hfree hconstant
    next hfree =>
      constructor
      · intro heq
        cases heq
        exact ⟨rfl, hfree⟩
      · exact And.left

/-- `Inspects` is true of the `target`. -/
theorem inspects_of_target (h : w.target s = .ok y) : w.Inspects s y := by
  cases w with
  | declare => exact (target_declare_eq_ok_iff.1 h).1
  | assign => exact (Store.resolve_eq_ok_iff_searches.1 (target_assign_eq_ok_iff.1 h).1).1

/-- `target` is a scope that is there. -/
theorem live_of_target (hw : s.Live w.scope) (h : w.target s = .ok y) : s.Live y := by
  cases w with
  | declare =>
    obtain ⟨rfl, -⟩ := target_declare_eq_ok_iff.1 h
    exact hw
  | assign =>
    obtain ⟨b, hb⟩ := Store.exists_binding_of_resolve (target_assign_eq_ok_iff.1 h).1
    exact Store.live_of_binding? hb

/-- `target` depends only on the scopes that a write looks at: on whether they bind the name and may
change it. -/
theorem target_congr (hchain : s'.chain w.scope = s.chain w.scope)
    (hinspects : ∀ y, w.Inspects s y → s'.binding? y w.name = s.binding? y w.name) :
    w.target s' = w.target s := by
  cases w with
  | declare scope name value m =>
    have hsame : s'.binding? scope name = s.binding? scope name := hinspects scope rfl
    rw [target, target, Store.hasLocal_eq, Store.hasLocal_eq, hsame]
  | assign scope name value =>
    have hresolve : s'.resolve scope name = s.resolve scope name := by
      refine Store.resolve_congr hchain fun y hy => ?_
      have hsame : s'.binding? y name = s.binding? y name := hinspects y hy
      rw [Store.hasLocal_eq, Store.hasLocal_eq, hsame]
    rw [target, target, hresolve]
    cases howner : s.resolve scope name with
    | error e => rfl
    | ok owner =>
      -- The owner is the last scope that the search looks at.
      have hsame : s'.binding? owner name = s.binding? owner name :=
        hinspects owner (Store.resolve_eq_ok_iff_searches.1 howner).1
      obtain ⟨b, hb⟩ := Store.exists_binding_of_resolve howner
      simp only [Store.mem_constants_of_binding? hb,
        Store.mem_constants_of_binding? (hsame.trans hb)]

/-! ## One write after another -/

/-- A write changes one binding: that of its name in its `target`. -/
theorem binding?_rebind_of_ne (hw : s.Live w.scope) (h : w.target s = .ok y)
    (hother : ¬ (z = y ∧ name = w.name)) :
    (s.rebind y w.rebind).binding? z name = s.binding? z name := by
  have hlive := live_of_target hw h
  cases w with
  | declare scope name' value m =>
    exact (Store.binding?_rebind_insert hlive (target_declare_eq_ok_iff.1 h).2 z name).trans
      (if_neg hother)
  | assign scope name' value =>
    exact (Store.binding?_rebind_update hlive name' value z name).trans (if_neg hother)

/-- A write has the `target` that it had before an independent one. -/
theorem target_after (ha : s.Live a.scope) (h : Independent s a b) :
    b.target (a.run s).2 = b.target s := by
  cases htarget : a.target s with
  | error e => rw [run_of_error htarget]
  | ok y =>
    rw [run_of_ok htarget]
    refine target_congr (Store.chain_rebind _ _ _ _) fun z hz => ?_
    refine binding?_rebind_of_ne ha htarget ?_
    rintro ⟨rfl, hname⟩
    -- The first write changes one binding, of another name or in a scope that the second one does
    -- not look at.
    rcases h with hne | ⟨hspares, -⟩
    · exact hne hname.symm
    · exact hspares z htarget hz

/-- A write answers what it answered before an independent one. -/
theorem run_after (ha : s.Live a.scope) (h : Independent s a b) :
    (b.run (a.run s).2).1 = (b.run s).1 := by
  rw [run_eq, run_eq s b, target_after ha h]
  cases b.target s <;> rfl

end Write

/-! ## The same bindings -/

namespace Bindings

variable {bs bs' : Bindings} {b b' : Binding} {name name' : String}

/-- `get?` does not depend on the order of the bindings. -/
theorem get?_eq_of_perm (h : bs'.toList.Perm bs.toList) (name : String) :
    bs'.get? name = bs.get? name := by
  refine Option.ext fun b => ?_
  rw [get?_eq_some_iff, get?_eq_some_iff, h.mem_iff]

/-- `insert` of two new names commutes, but for the order of the bindings. -/
theorem perm_insert_insert (hne : b.name ≠ b'.name) (h : bs.get? b.name = none)
    (h' : bs.get? b'.name = none) :
    ((bs.insert b').insert b).toList.Perm ((bs.insert b).insert b').toList := by
  have hb : (bs.insert b').get? b.name = none := by rw [get?_insert h', if_neg hne.symm, h]
  have hb' : (bs.insert b).get? b'.name = none := by rw [get?_insert h, if_neg hne, h']
  rw [toList_insert hb, toList_insert h', toList_insert hb', toList_insert h]
  exact .swap b' b bs.toList

/-- `insert` of a new name commutes with `update` of another name. -/
theorem toList_update_insert (hne : b.name ≠ name) (h : bs.get? b.name = none) (value : Value) :
    ((bs.insert b).update name value).toList = ((bs.update name value).insert b).toList := by
  have hb : (bs.update name value).get? b.name = none := by rw [get?_update, h, Option.map_none]
  rw [toList_insert hb, toList_update, toList_insert h, List.map_cons, withValue, if_neg hne,
    toList_update]

/-- `update` of two names commutes. -/
theorem toList_update_update (hne : name ≠ name') (value value' : Value) :
    ((bs.update name value).update name' value').toList =
      ((bs.update name' value').update name value).toList := by
  have hcomm (b : Binding) : withValue name' value' (withValue name value b) =
      withValue name value (withValue name' value' b) := by
    -- A binding has one name, so at most one of the two updates is about it.
    by_cases hb : b.name = name
    · have hb' : b.name ≠ name' := fun heq => hne (hb.symm.trans heq)
      simp [withValue, hb, hne]
    · simp only [withValue, hb, if_false]
      split <;> simp
  simp only [toList_update, List.map_map]
  exact List.map_congr_left fun b _ => hcomm b

end Bindings

namespace Store

/-- The second store has the scopes of the first one, inside the same scopes and held as often, and
they bind the same names to the same values and have the same constants. -/
structure Alike (s s' : Store) : Prop where
  size_eq : s'.scopes.size = s.scopes.size
  live_iff : ∀ x, s'.Live x ↔ s.Live x
  chain_eq : ∀ x, s'.chain x = s.chain x
  holds_eq : ∀ x, (s'.get? x).map Scope.holds = (s.get? x).map Scope.holds
  binding?_eq : ∀ x name, s'.binding? x name = s.binding? x name
  mem_constants_iff : ∀ x name, name ∈ s'.constants x ↔ name ∈ s.constants x
  localSize_eq : ∀ x, s'.localSize x = s.localSize x

variable {s : Store} {y z : ScopeId} {f g : Bindings → Bindings}

/-- `Alike` holds between a store and itself. -/
theorem Alike.refl (s : Store) : s.Alike s :=
  ⟨rfl, fun _ => .rfl, fun _ => rfl, fun _ => rfl, fun _ _ => rfl, fun _ _ => .rfl, fun _ => rfl⟩

/-- `rebind` of two scopes commutes; changes of one scope do if they commute there, but for the
order of the bindings. -/
theorem alike_rebind_rebind (hy : s.Live y) (hz : s.Live z)
    (hperm : y = z → (f (g (s.bindings y))).toList.Perm (g (f (s.bindings y))).toList) :
    ((s.rebind y f).rebind z g).Alike ((s.rebind z g).rebind y f) := by
  have hbindings (x : ScopeId) : (((s.rebind z g).rebind y f).bindings x).toList.Perm
      (((s.rebind y f).rebind z g).bindings x).toList := by
    -- Only a scope that both changes concern depends on their order.
    by_cases hxy : x = y
    · subst hxy
      rw [bindings_rebind_self (live_rebind.2 hy)]
      by_cases hxz : x = z
      · subst hxz
        rw [bindings_rebind_self hy, bindings_rebind_self (live_rebind.2 hy),
          bindings_rebind_self hy]
        exact hperm rfl
      · rw [bindings_rebind_of_ne hxz, bindings_rebind_of_ne hxz, bindings_rebind_self hy]
    · rw [bindings_rebind_of_ne hxy]
      by_cases hxz : x = z
      · subst hxz
        rw [bindings_rebind_self hz, bindings_rebind_self (live_rebind.2 hz),
          bindings_rebind_of_ne hxy]
      · rw [bindings_rebind_of_ne hxz, bindings_rebind_of_ne hxz, bindings_rebind_of_ne hxy]
  have hbinding (x : ScopeId) (name : String) : ((s.rebind z g).rebind y f).binding? x name =
      ((s.rebind y f).rebind z g).binding? x name := Bindings.get?_eq_of_perm (hbindings x) name
  refine ⟨?_, fun x => ?_, fun x => ?_, fun x => ?_, hbinding, fun x name => ?_, fun x => ?_⟩
  · simp only [rebind, modify, Array.size_modify]
  · simp only [live_rebind]
  · simp only [chain_rebind]
  · simp only [holds_rebind]
  · rw [mem_constants, mem_constants, hbinding]
  · exact (hbindings x).length_eq

end Store

namespace Write

variable {s : Store} {a b : Write} {y : ScopeId}

/-- `rebind` by writes of different names to one scope commutes, but for the order of the bindings.
-/
theorem perm_rebind (hne : a.name ≠ b.name) (ha : a.target s = .ok y) (hb : b.target s = .ok y) :
    (a.rebind (b.rebind (s.bindings y))).toList.Perm
      (b.rebind (a.rebind (s.bindings y))).toList := by
  cases a with
  | declare scope name value m =>
    have hnew := (target_declare_eq_ok_iff.1 ha).2
    cases b with
    | declare scope' name' value' m' =>
      exact Bindings.perm_insert_insert hne hnew (target_declare_eq_ok_iff.1 hb).2
    | assign scope' name' value' =>
      exact .of_eq (Bindings.toList_update_insert (b := ⟨name, value, m⟩) hne hnew value').symm
  | assign scope name value =>
    cases b with
    | declare scope' name' value' m' =>
      have hnew := (target_declare_eq_ok_iff.1 hb).2
      exact .of_eq (Bindings.toList_update_insert (b := ⟨name', value', m'⟩) hne.symm hnew value)
    | assign scope' name' value' => exact .of_eq (Bindings.toList_update_update hne.symm _ _)

/-- `Independent` writes to one scope are about different names, since a write looks at its target.
-/
theorem Independent.name_ne (h : Independent s a b) (ha : a.target s = .ok y)
    (hb : b.target s = .ok y) : a.name ≠ b.name := by
  rcases h with hne | ⟨hspares, -⟩
  · exact hne
  · exact absurd (inspects_of_target hb) (hspares y ha)

end Write

namespace Store

variable {s : Store} {a b : Write}

/-- Independent writes commute: each answers what it answers without the other one before it, and the
same bindings result. -/
theorem run_comm (ha : s.Live a.scope) (hb : s.Live b.scope) (h : a.Independent s b) :
    (b.run (a.run s).2).1 = (b.run s).1 ∧ (a.run (b.run s).2).1 = (a.run s).1 ∧
      (b.run (a.run s).2).2.Alike (a.run (b.run s).2).2 := by
  refine ⟨Write.run_after ha h, Write.run_after hb h.symm, ?_⟩
  have hafter := Write.target_after ha h
  have hafter' := Write.target_after hb h.symm
  cases htarget : a.target s with
  | error e =>
    -- A write that fails changes nothing, wherever it comes.
    rw [Write.run_of_error htarget, Write.run_of_error (hafter'.trans htarget)]
    exact .refl _
  | ok y =>
    cases htarget' : b.target s with
    | error e =>
      rw [Write.run_of_error htarget', Write.run_of_error (hafter.trans htarget')]
      exact .refl _
    | ok z =>
      rw [Write.run_of_ok (hafter.trans htarget'), Write.run_of_ok (hafter'.trans htarget),
        Write.run_of_ok htarget, Write.run_of_ok htarget']
      refine alike_rebind_rebind (Write.live_of_target ha htarget)
        (Write.live_of_target hb htarget') ?_
      rintro rfl
      exact Write.perm_rebind (h.name_ne htarget htarget') htarget htarget'

/-- A scope declares `x` anew, while `x` is assigned to from another one beside it. -/
theorem run_comm_siblings :
    let outer := (empty.addRoot.2.declare ⟨0⟩ "x" .null .mutable).2
    let s := ((outer.addChild ⟨0⟩).2.addChild ⟨0⟩).2
    let a : Write := .declare ⟨1⟩ "x" (.boolean true) .constant
    let b : Write := .assign ⟨2⟩ "x" (.boolean false)
    s.Live a.scope ∧ s.Live b.scope ∧ a.Independent s b ∧
      (b.run (a.run s).2).1 = .ok (.boolean false) ∧ (a.run (b.run s).2).1 = .ok (.boolean true) ∧
      (b.run (a.run s).2).2.Alike (a.run (b.run s).2).2 := by
  intro outer s a b
  have ha : s.Live a.scope := by decide
  have hb : s.Live b.scope := by decide
  have htarget : a.target s = .ok ⟨1⟩ := by decide
  have htarget' : b.target s = .ok ⟨0⟩ := by decide
  have hindependent : a.Independent s b := by
    refine .inr ⟨fun y hy => ?_, fun y hy => ?_⟩
    · cases htarget.symm.trans hy
      exact (by decide : ¬ s.Searches ⟨2⟩ "x" ⟨1⟩)
    · cases htarget'.symm.trans hy
      exact (by decide : ¬ (⟨0⟩ : ScopeId) = ⟨1⟩)
  obtain ⟨hanswer, hanswer', halike⟩ := run_comm ha hb hindependent
  refine ⟨ha, hb, hindependent, ?_, ?_, halike⟩
  · rw [hanswer]
    decide
  · rw [hanswer']
    decide

end Store

end ScriptCore
