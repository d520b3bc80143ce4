import Mathlib.Data.List.Pairwise
import ScriptCore.Proofs.Session.Passing

/-!
# Identity of native functions

Scripts see whether two native functions are the same one, and not only functions that look alike.
Here a host makes native functions and global scopes and moves values between scopes, and for every
value a note goes along that says which call made it.  The notes are written without looking at the
numbers of functions.  Whatever the host does, two functions are equal exactly if their notes are.

* `Errand`: what the host does;
* `Tracking.next`: an errand and its notes;
* `Tracking.Faithful`: the notes are right, which each errand preserves;
* `identifies_run`: in every run, equality is equality of the notes.
-/

namespace ScriptCore

/-- The number of a native function. -/
def Value.id? (value : Value) : Option Nat := value.native?.map Native.id

/-- What a host does to make values and to move them.  A slot is a place among the values that it
keeps. -/
inductive Errand where
  /-- Keeps a value that is no native function. -/
  | plain (value : {value : Value // value.native? = none})
  /-- Makes a native function and keeps it. -/
  | make (name : String) (body : NativeBody)
  | copy (slot : Nat)
  | newGlobal (sink : Sink)
  /-- Works on scopes and handles, and on no value. -/
  | operate (operation : {operation : Operation // operation.passesValue = false})
  | declare (handle : Nat) (name : String) (slot : Nat) (mutability : Mutability)
  | assign (handle : Nat) (name : String) (slot : Nat)
  | lookup (handle : Nat) (name : String)

/-- A value with its origin: the call that made it, if it is a native function. -/
structure Traced where
  value : Value
  origin : Option Nat

/-- A session with the values that its host keeps, and notes.  Calls that make native functions are
counted from the beginning. -/
structure Tracking where
  session : Session
  kept : List Traced
  /-- How many calls there were. -/
  calls : Nat
  /-- The origins of the values that are bound. -/
  bound : ScopeId → String → Option Nat
  /-- The global scopes, the latest first, each with the number of calls before it. -/
  globals : List (ScopeId × Nat)

/-- Where a value can be read: among those that are kept, or under a name, from a scope. -/
inductive Place where
  | kept (slot : Nat)
  | named (scope : ScopeId) (name : String)

namespace Tracking

/-! ## Errands and notes -/

def start (clock : Nat) (seed : UInt64) : Tracking :=
  { session := .start clock seed, kept := [], calls := 0, bound := fun _ _ => none, globals := [] }

def keep (t : Tracking) (traced : Traced) : Tracking := { t with kept := t.kept ++ [traced] }

/-- Takes a step that answers a value and leaves it bound to a name in a scope.  The value has the
given origin; if the step fails there is nothing to note. -/
def pass (t : Tracking) (handle : Nat) (operation : ScopeOperation) (scope? : Option ScopeId)
    (name : String) (origin : Option Nat) : Tracking :=
  match scope?, t.session.step (.onScope handle operation.step) with
  | some scope, (.ok (.value value), session) =>
    { t with
      session
      bound := fun x n => if x = scope ∧ n = name then origin else t.bound x n }.keep ⟨value, origin⟩
  | _, (_, session) => { t with session }

/-- The notes after a global scope was made: its catalogue is made in its order, one call for each
function. -/
def noteGlobal (t : Tracking) (global : ScopeId) : ScopeId → String → Option Nat := fun x n =>
  if x = global then (Builtin.names.idxOf? n).map (t.calls + ·) else t.bound x n

/-- Runs an errand and takes notes. -/
def next (t : Tracking) : Errand → Tracking
  | .plain value => t.keep ⟨value, none⟩
  | .make name body =>
    let (f, session) := t.session.register name body
    { t with session, calls := t.calls + 1 }.keep ⟨.native f, some t.calls⟩
  | .copy slot => t.kept[slot]?.elim t t.keep
  | .newGlobal sink =>
    let global := t.session.store.addRoot.1
    { t with
      session := (t.session.step (.newGlobal sink)).2
      calls := t.calls + Builtin.names.length
      bound := t.noteGlobal global
      globals := (global, t.calls) :: t.globals }
  | .operate operation => { t with session := (t.session.step operation.val.step).2 }
  | .declare handle name slot mutability =>
    t.kept[slot]?.elim t fun traced =>
      t.pass handle (.declare name traced.value mutability) (t.session.scope? handle) name
        traced.origin
  | .assign handle name slot =>
    t.kept[slot]?.elim t fun traced =>
      t.pass handle (.assign name traced.value) (t.session.owner? handle name) name traced.origin
  | .lookup handle name =>
    let owner? := t.session.owner? handle name
    t.pass handle (.lookup name) owner? name (owner?.bind (t.bound · name))

/-- Runs errands, one after the other. -/
def run (t : Tracking) (errands : List Errand) : Tracking := errands.foldl next t

/-- Reads a value, and its origin from the notes. -/
def read? (t : Tracking) : Place → Option Traced
  | .kept slot => t.kept[slot]?
  | .named scope name =>
    match t.session.store.resolve scope name, t.session.store.lookup scope name with
    | .ok owner, .ok value => some ⟨value, t.bound owner name⟩
    | _, _ => none

/-- The notes identify native functions, wherever they are read. -/
structure Identifies (t : Tracking) : Prop where
  /-- What is read is a native function exactly if it stems from a call, and the call has been. -/
  stems : ∀ {place traced}, t.read? place = some traced →
    (traced.value.native?.isSome ↔ ∃ call < t.calls, traced.origin = some call)
  equals_iff : ∀ {place place' f f' origin origin'},
    t.read? place = some ⟨.native f, origin⟩ → t.read? place' = some ⟨.native f', origin'⟩ →
    ((Value.native f).equals (.native f') = true ↔ origin = origin')
  /-- A name of the catalogue that resolves to a global scope stands for a function.  For two such
  names, in one global scope or in two, the functions are equal only if all is the same. -/
  catalogue : ∀ {global global'}, global ∈ t.globals → global' ∈ t.globals →
    ∀ {name name'}, name ∈ Builtin.names → name' ∈ Builtin.names → ∀ {x y},
    t.session.store.resolve x name = .ok global.1 →
    t.session.store.resolve y name' = .ok global'.1 →
    ∃ f f', t.session.store.lookup x name = .ok (.native f) ∧
      t.session.store.lookup y name' = .ok (.native f') ∧
      ((Value.native f).equals (.native f') = true ↔ global.1 = global'.1 ∧ name = name')

end Tracking

/-! ## The functions of a global scope -/

/-- A name of the catalogue is bound to the function that is made at its place. -/
theorem mem_globals_of_names {name : String} {i : Nat} (hi : Builtin.names[i]? = some name)
    (first : Nat) : (name, .native ⟨first + i, name⟩) ∈ globals first := by
  rw [Builtin.names_eq, List.getElem?_map, Option.map_eq_some_iff] at hi
  obtain ⟨builtin, hbuiltin, rfl⟩ := hi
  exact List.mem_append_right _ (mem_numbered hbuiltin)

/-- What a global scope binds to a name is told by the place of the name in the catalogue. -/
theorem id?_of_mem_globals {name : String} {value : Value} {first : Nat}
    (h : (name, value) ∈ globals first) :
    value.id? = (Builtin.names.idxOf? name).map (first + ·) := by
  cases hplace : Builtin.names.idxOf? name with
  | none =>
    rw [List.idxOf?_eq_none_iff, Builtin.names_eq, ← map_fst_numbered first] at hplace
    rcases List.mem_append.1 h with hliteral | hnumbered
    · have hall : ∀ literal ∈ literals, literal.2.id? = none := by decide
      exact hall _ hliteral
    · exact absurd (List.mem_map_of_mem hnumbered) hplace
  | some i =>
    obtain ⟨hi, hname, -⟩ := List.idxOf?_eq_some_iff.1 hplace
    have hmem := mem_globals_of_names (List.getElem?_eq_some_iff.2 ⟨hi, hname⟩) first
    -- Names of a global scope are different, so there is one value for each.
    have hnodup : ((globals first).map Prod.fst).Nodup := by
      rw [map_fst_globals]
      exact nodup_names
    have heq := List.inj_on_of_nodup_map hnodup h hmem rfl
    cases heq
    rfl

/-! ## The notes are right -/

/-- The origin of a value is the call that its number tells, and the call has been. -/
structure Stems (calls : Nat) (value : Value) (origin : Option Nat) : Prop where
  id?_eq : value.id? = origin
  lt_calls : ∀ call ∈ origin, call < calls

variable {calls calls' : Nat} {value : Value} {origin : Option Nat}

/-- `Stems` goes on to later calls. -/
theorem Stems.mono (h : Stems calls value origin) (hle : calls ≤ calls') :
    Stems calls' value origin :=
  ⟨h.id?_eq, fun call hcall => Nat.lt_of_lt_of_le (h.lt_calls call hcall) hle⟩

/-- `Stems` from no call is what is no native function. -/
theorem stems_of_native?_eq_none (h : value.native? = none) : Stems calls value none :=
  ⟨by rw [Value.id?, h, Option.map_none], nofun⟩

/-- `Stems` from the call of its number is a native function. -/
theorem stems_native {f : Native} (hlt : f.id < calls) : Stems calls (.native f) (some f.id) :=
  ⟨rfl, fun _ hcall => Option.some.inj hcall ▸ hlt⟩

/-- `Stems` of a value tells whether it is a native function: if there is a call that it stems from.
-/
theorem Stems.isSome_native?_iff (h : Stems calls value origin) :
    value.native?.isSome ↔ ∃ call < calls, origin = some call := by
  rw [← h.id?_eq, Value.id?]
  constructor
  · intro hsome
    obtain ⟨f, hf⟩ := Option.isSome_iff_exists.1 hsome
    have horigin : f.id ∈ origin := by
      rw [← h.id?_eq, Value.id?, hf]
      exact rfl
    exact ⟨f.id, h.lt_calls f.id horigin, by rw [hf, Option.map_some]⟩
  · rintro ⟨call, -, hcall⟩
    obtain ⟨f, hf, -⟩ := Option.map_eq_some_iff.1 hcall
    rw [hf]
    rfl

namespace Tracking

/-- The notes are right. -/
structure Faithful (t : Tracking) : Prop where
  sound : t.session.Sound
  /-- Each call has made one function. -/
  size_eq : t.session.natives.size = t.calls
  kept : ∀ traced ∈ t.kept, Stems t.calls traced.value traced.origin
  bound : ∀ {x name b}, t.session.store.binding? x name = some b →
    Stems t.calls b.value (t.bound x name)
  /-- The session has come of one in which the global scope was as it is made. -/
  globals : ∀ global ∈ t.globals, ∃ before sink dropped,
    before.HasGlobals global.1 sink global.2 ∧ Session.Follows dropped before t.session
  /-- There were the calls for one global scope after another. -/
  apart : (t.calls :: t.globals.map Prod.snd).Pairwise fun later earlier =>
    earlier + Builtin.names.length ≤ later

variable {t : Tracking} {s' : Session} {dropped : List Nat}

/-- `Faithful` notes are those of the start, which are empty. -/
theorem faithful_start (clock : Nat) (seed : UInt64) : (start clock seed).Faithful where
  sound := Session.sound_start clock seed
  size_eq := rfl
  kept := nofun
  bound := nofun
  globals := nofun
  apart := List.pairwise_singleton _ _

/-- `Faithful` notes stay so when a value with a right origin is kept. -/
theorem Faithful.keep (h : t.Faithful) {traced : Traced}
    (hstems : Stems t.calls traced.value traced.origin) : (t.keep traced).Faithful where
  sound := h.sound
  size_eq := h.size_eq
  kept other hother := by
    rcases List.mem_append.1 hother with hother | hother
    · exact h.kept other hother
    · rw [List.mem_singleton.1 hother]
      exact hstems
  bound := h.bound
  globals := h.globals
  apart := h.apart

/-- `Faithful.advance`: the session goes on and functions are made; what matters are the notes on
what is then bound. -/
theorem Faithful.advance (h : t.Faithful) (made : Nat) (hfollows : Session.Follows dropped t.session s')
    (hsize : s'.natives.size = t.calls + made) {bound : ScopeId → String → Option Nat}
    (hbound : ∀ {x name b}, s'.store.binding? x name = some b →
      Stems (t.calls + made) b.value (bound x name)) :
    Faithful { t with session := s', calls := t.calls + made, bound } where
  sound := hfollows.sound h.sound
  size_eq := hsize
  kept traced htraced := (h.kept traced htraced).mono (Nat.le_add_right _ _)
  bound := hbound
  globals global hglobal := by
    obtain ⟨before, sink, dropped', hhas, hbefore⟩ := h.globals global hglobal
    exact ⟨before, sink, _, hhas, hbefore.trans hfollows⟩
  apart := by
    obtain ⟨hfirst, hrest⟩ := List.pairwise_cons.1 h.apart
    refine List.pairwise_cons.2 ⟨fun first hmem => ?_, hrest⟩
    have hle := hfirst first hmem
    show first + Builtin.names.length ≤ t.calls + made
    omega

/-- `Faithful` notes stay so when a function is made. -/
theorem Faithful.make (h : t.Faithful) (name : String) (body : NativeBody) :
    (t.next (.make name body)).Faithful := by
  have hfollows := (t.session.writes_register name body).follows
  have hsize : (t.session.register name body).2.natives.size = t.calls + 1 := by
    rw [← h.size_eq]
    exact Array.size_push _
  have hadvanced := h.advance 1 hfollows hsize fun hb => (h.bound hb).mono (Nat.le_succ _)
  apply hadvanced.keep
  -- The function has the next number, which is the number of calls before.
  show Stems (t.calls + 1) (.native ⟨t.session.natives.size, name⟩) (some t.calls)
  rw [h.size_eq]
  exact stems_native (Nat.lt_succ_self _)

/-- `openGlobal` binds the functions of its catalogue, which are numbered in their order. -/
theorem Faithful.stems_openGlobal (h : t.Faithful) {sink : Sink} {x : ScopeId} {name : String}
    {b : Binding} (hb : (t.session.openGlobal sink).store.binding? x name = some b) :
    Stems (t.calls + Builtin.names.length) b.value
      (t.noteGlobal t.session.store.addRoot.1 x name) := by
  rw [noteGlobal]
  rcases (Store.binding?_withConstants t.session.admits_globals x name b).1 hb with
    hbefore | ⟨hx, value, hmem, rfl⟩
  · have hold := Store.binding?_of_addRoot hbefore
    have hne : x ≠ t.session.store.addRoot.1 := fun heq =>
      Store.not_live_add _ _ (heq ▸ Store.live_of_binding? hold)
    rw [if_neg hne]
    exact (h.bound hold).mono (Nat.le_add_right _ _)
  -- A name of the new scope stands for a literal or for the function at its place in the catalogue.
  · rw [if_pos hx]
    rw [h.size_eq] at hmem
    have hid := id?_of_mem_globals hmem
    refine ⟨hid, fun call hcall => ?_⟩
    obtain ⟨i, hi, rfl⟩ := Option.map_eq_some_iff.1 hcall
    obtain ⟨hlt, -⟩ := List.idxOf?_eq_some_iff.1 hi
    omega

/-- `Faithful` notes stay so when a global scope is made. -/
theorem Faithful.newGlobal (h : t.Faithful) (sink : Sink) :
    (t.next (.newGlobal sink)).Faithful := by
  have hsize : (t.session.openGlobal sink).natives.size = t.calls + Builtin.names.length := by
    rw [Session.openGlobal, Session.natives_openConstants, ← Array.length_toList,
      Array.toList_appendList, List.length_append, Array.length_toList, h.size_eq, Builtin.names_eq,
      List.length_map, List.length_map]
  have hadvanced := h.advance _ (t.session.follows_openGlobal sink) hsize h.stems_openGlobal
  rw [Tracking.next, Session.step_newGlobal]
  refine { hadvanced with globals := ?_, apart := ?_ }
  -- The new scope has its catalogue, and the older ones have kept theirs.
  · intro global hglobal
    rcases List.mem_cons.1 hglobal with rfl | hglobal
    · have hhas := t.session.hasGlobals_openGlobal sink
      rw [h.size_eq] at hhas
      exact ⟨_, _, [], hhas, .refl _⟩
    · exact hadvanced.globals global hglobal
  · refine List.pairwise_cons.2 ⟨fun first hfirst => ?_, h.apart⟩
    rcases List.mem_cons.1 hfirst with rfl | hfirst
    · exact Nat.le_refl _
    · exact (List.pairwise_cons.1 hadvanced.apart).1 first hfirst

/-- `Faithful` notes stay so under an operation that passes no value. -/
theorem Faithful.operate (h : t.Faithful) {operation : Operation}
    (hpasses : operation.passesValue = false) :
    Faithful { t with session := (t.session.step operation.step).2 } := by
  have hmoves := Session.moves_step h.sound operation
  have hsize : (t.session.step operation.step).2.natives.size = t.calls := by
    rw [hmoves.natives_eq, h.size_eq]
  exact h.advance 0 (t.session.follows_step operation.step) hsize fun hb =>
    h.bound (hmoves.binding?_of_binding?
      (fun _ _ value m => Session.event?_of_passesValue hpasses _ value m) hb)

/-- `Faithful` notes stay so under an operation that passes a value with a right origin. -/
theorem Faithful.pass (h : t.Faithful) {handle : Nat} {operation : ScopeOperation}
    {scope? : Option ScopeId} {name : String} {P : Value → Prop}
    (hpasses : t.session.Passes scope? name P (t.session.step (.onScope handle operation.step)))
    (hstems : ∀ value, P value → Stems t.calls value origin) :
    (t.pass handle operation scope? name origin).Faithful := by
  have hfollows := t.session.follows_step (.onScope handle operation.step)
  unfold Tracking.pass
  generalize t.session.step (.onScope handle operation.step) = outcome at hpasses hfollows ⊢
  cases hpasses with
  | failed => cases scope? <;> exact h
  | @passed scope value store hscope hvalue hbinding =>
    rw [hscope]
    have hvalue := hstems value hvalue
    refine (h.advance 0 hfollows h.size_eq fun {x n b} hb => ?_).keep hvalue
    have hbound := hbinding hb
    split at hbound
    next hboth =>
      rw [if_pos hboth, hbound]
      exact hvalue
    next hother =>
      rw [if_neg hother]
      exact h.bound hbound

/-- `Faithful` notes stay so under each errand. -/
theorem Faithful.next (h : t.Faithful) (errand : Errand) : (t.next errand).Faithful := by
  have hmem {slot : Nat} {traced : Traced} (hslot : t.kept[slot]? = some traced) :
      Stems t.calls traced.value traced.origin := h.kept traced (List.mem_of_getElem? hslot)
  cases errand with
  | plain value => exact h.keep (stems_of_native?_eq_none value.property)
  | make name body => exact h.make name body
  | newGlobal sink => exact h.newGlobal sink
  | operate operation => exact h.operate operation.property
  | copy slot =>
    rw [Tracking.next]
    cases hslot : t.kept[slot]? with
    | none => exact h
    | some traced => exact h.keep (hmem hslot)
  | declare handle name slot m =>
    rw [Tracking.next]
    cases hslot : t.kept[slot]? with
    | none => exact h
    | some traced =>
      apply h.pass (Session.passes_declare h.sound handle name traced.value m)
      rintro value rfl
      exact hmem hslot
  | assign handle name slot =>
    rw [Tracking.next]
    cases hslot : t.kept[slot]? with
    | none => exact h
    | some traced =>
      apply h.pass (t.session.passes_assign handle name traced.value)
      rintro value rfl
      exact hmem hslot
  | lookup handle name =>
    apply h.pass (t.session.passes_lookup handle name)
    rintro value ⟨owner, b, howner, hb, rfl⟩
    rw [howner]
    exact h.bound hb

/-- `Faithful` notes stay so in a run. -/
theorem Faithful.run (h : t.Faithful) (errands : List Errand) : (t.run errands).Faithful := by
  induction errands generalizing t with
  | nil => exact h
  | cons errand rest ih => exact ih (h.next errand)

/-! ## Reading -/

/-- What `read?` gives has the origin that is noted. -/
theorem Faithful.stems_of_read? (h : t.Faithful) {place : Place} {traced : Traced}
    (hread : t.read? place = some traced) : Stems t.calls traced.value traced.origin := by
  cases place with
  | kept slot => exact h.kept traced (List.mem_of_getElem? hread)
  | named scope name =>
    rw [read?] at hread
    cases howner : t.session.store.resolve scope name with
    | error e =>
      rw [howner] at hread
      cases hread
    | ok owner =>
      obtain ⟨b, hb⟩ := Store.exists_binding_of_resolve howner
      rw [howner, Store.lookup_of_resolve howner hb] at hread
      cases hread
      exact h.bound hb

/-- `lookup` of a name of the catalogue that resolves to a global scope gives the function at its
place. -/
theorem Faithful.lookup_global (h : t.Faithful) {global : ScopeId × Nat} (hglobal : global ∈ t.globals)
    {name : String} {i : Nat} (hi : Builtin.names[i]? = some name) {x : ScopeId}
    (hresolve : t.session.store.resolve x name = .ok global.1) :
    t.session.store.lookup x name = .ok (.native ⟨global.2 + i, name⟩) := by
  obtain ⟨before, sink, dropped, hhas, hfollows⟩ := h.globals global hglobal
  obtain ⟨b, hb⟩ := Store.exists_binding_of_resolve hresolve
  -- The scope is there, since it binds the name, so it has kept its constants.
  have hnow := hfollows.keepsConstants.bindsConstant
    (hhas.bindsConstant _ (mem_globals_of_names hi global.2)) (Store.live_of_binding? hb)
  exact Store.lookup_of_resolve hresolve (Store.bindsConstant_iff.1 hnow)

/-- The catalogues of two global scopes were made one after the other. -/
def Apart (global global' : ScopeId × Nat) : Prop :=
  global'.2 + Builtin.names.length ≤ global.2 ∨ global.2 + Builtin.names.length ≤ global'.2

instance : Std.Symm Apart := ⟨fun _ _ => Or.symm⟩

/-- No two functions in the catalogues of global scopes have the same number. -/
theorem Faithful.eq_of_add_eq (h : t.Faithful) {global global' : ScopeId × Nat}
    (hglobal : global ∈ t.globals) (hglobal' : global' ∈ t.globals) {i i' : Nat}
    (hi : i < Builtin.names.length) (hi' : i' < Builtin.names.length)
    (heq : global.2 + i = global'.2 + i') : global = global' := by
  have hapart : t.globals.Pairwise Apart :=
    (List.pairwise_map.1 (List.pairwise_cons.1 h.apart).2).imp Or.inl
  by_contra hne
  cases hapart.forall hglobal hglobal' hne with
  | inl hlater => omega
  | inr hearlier => omega

/-- `equals` of two native functions compares their numbers. -/
theorem equals_native_iff (f f' : Native) :
    (Value.native f).equals (.native f') = true ↔ f.id = f'.id := beq_iff_eq

/-- `Faithful` notes identify native functions. -/
theorem Faithful.identifies (h : t.Faithful) : t.Identifies where
  stems hread := (h.stems_of_read? hread).isSome_native?_iff
  equals_iff {place place' f f' origin origin'} hread hread' := by
    have hid : some f.id = origin := (h.stems_of_read? hread).id?_eq
    have hid' : some f'.id = origin' := (h.stems_of_read? hread').id?_eq
    rw [equals_native_iff, ← hid, ← hid', Option.some_inj]
  catalogue {global global'} hglobal hglobal' {name name'} hname hname' {x y} hx hy := by
    obtain ⟨i, hi⟩ := List.mem_iff_getElem?.1 hname
    obtain ⟨i', hi'⟩ := List.mem_iff_getElem?.1 hname'
    have hlookup := h.lookup_global hglobal hi hx
    have hlookup' := h.lookup_global hglobal' hi' hy
    refine ⟨_, _, hlookup, hlookup', ?_⟩
    rw [equals_native_iff]
    constructor
    · intro heq
      obtain ⟨hlt, hget⟩ := List.getElem?_eq_some_iff.1 hi
      obtain ⟨hlt', hget'⟩ := List.getElem?_eq_some_iff.1 hi'
      cases h.eq_of_add_eq hglobal hglobal' hlt hlt' heq
      obtain rfl := Nat.add_left_cancel heq
      exact ⟨rfl, hget.symm.trans hget'⟩
    · -- The same name in the same scope has one value, from wherever it is looked up.
      rintro ⟨hscope, rfl⟩
      rw [← hscope] at hy
      rw [← Store.lookup_congr_owner hx hy, hlookup] at hlookup'
      exact congrArg Native.id (Value.native.inj (Except.ok.inj hlookup'))

/-- In every run from the `start`, native functions that are read anywhere are equal exactly if they
stem from the same call.  So they are still equal to themselves when they have been bound again and
again, while those of a catalogue differ from each other and from those of every other global scope.
-/
theorem identifies_run (clock : Nat) (seed : UInt64) (errands : List Errand) :
    ((start clock seed).run errands).Identifies :=
  ((faithful_start clock seed).run errands).identifies

/-- A name is bound to `sqrt` of one global scope, then to that of another one, and then to the first
one again.  These are the fifth functions that were made for the two scopes. -/
example : ((start 0 0).run [.newGlobal .console, .newGlobal .silent, .lookup 0 "sqrt",
    .operate ⟨.onScope 0 .child, rfl⟩, .declare 2 "root" 0 .mutable, .lookup 1 "sqrt",
    .assign 2 "root" 2, .lookup 2 "root", .assign 2 "root" 0, .lookup 2 "root"]).kept.map
    Traced.origin = [some 4, some 4, some 59, some 59, some 59, some 4, some 4] := by
  decide +kernel

end Tracking

end ScriptCore
