import ScriptCore.Proofs.Scope.Store
import ScriptCore.Session.Basic

/-!
# Global scopes

A global scope is an outermost scope with the literals and the catalogue.  They have different names
and the scope is new, so making it never fails.  `addGlobal_eq` gives the session that results: the
store has one more scope, which binds `globals` and nothing else, and the functions of the catalogue
are numbered from the first free number on.

* `Store.withConstants`: a scope with many constants more, and `binding?_withConstants`;
* `declareConstants_eq`, `installAll_eq`: what is declared one by one is what the scope then binds;
* `installCatalogue_eq`: the groups of the catalogue are installed like one list;
* `binding?_addGlobal`: the bindings of a new global scope.
-/

namespace ScriptCore

/-! ## Many constants -/

namespace Store

/-- A store in which a scope binds constants besides what it has. -/
def withConstants (s : Store) (id : ScopeId) (constants : List (String × Value)) : Store :=
  constants.foldl (fun s constant => s.rebind id (·.insert ⟨constant.1, constant.2, .constant⟩)) s

/-- The constants have different names, and the scope has none of them yet. -/
structure Admits (s : Store) (id : ScopeId) (constants : List (String × Value)) : Prop where
  live : s.Live id
  nodup : (constants.map Prod.fst).Nodup
  unbound : ∀ constant ∈ constants, s.binding? id constant.1 = none

variable {s : Store} {id x : ScopeId} {name : String} {value : Value} {b : Binding}
  {constants rest : List (String × Value)}

/-- `Admits` goes on to the other constants after the first one. -/
theorem Admits.tail (h : s.Admits id ((name, value) :: rest)) :
    (s.rebind id (·.insert ⟨name, value, .constant⟩)).Admits id rest := by
  obtain ⟨hnotMem, hnodup⟩ := List.nodup_cons.1 h.nodup
  have hnew : s.binding? id name = none := h.unbound _ List.mem_cons_self
  refine ⟨live_rebind.2 h.live, hnodup, fun constant hconstant => ?_⟩
  have hother : ¬ (id = id ∧ constant.1 = name) := by
    rintro ⟨-, rfl⟩
    exact hnotMem (List.mem_map.2 ⟨constant, hconstant, rfl⟩)
  rw [binding?_rebind_insert h.live hnew, if_neg hother]
  exact h.unbound constant (List.mem_cons_of_mem _ hconstant)

/-- `Admits` is true of the first of several constants. -/
theorem Admits.left (h : s.Admits id (constants ++ rest)) : s.Admits id constants := by
  refine ⟨h.live, ?_, fun constant hconstant => h.unbound _ (List.mem_append_left _ hconstant)⟩
  have hnodup := h.nodup
  rw [List.map_append] at hnodup
  exact (List.nodup_append.1 hnodup).1

/-- `Admits` is true of the constants that follow after some of them. -/
theorem Admits.right (h : s.Admits id (constants ++ rest)) :
    (s.withConstants id constants).Admits id rest := by
  induction constants generalizing s with
  | nil => exact h
  | cons constant constants ih => exact ih h.tail

/-- `withConstants` declares two lists one after the other. -/
theorem withConstants_append : s.withConstants id (constants ++ rest) =
    (s.withConstants id constants).withConstants id rest := List.foldl_append

/-- `withConstants` binds what was bound before, and the constants. -/
theorem binding?_withConstants (h : s.Admits id constants) (x : ScopeId) (name : String)
    (b : Binding) : (s.withConstants id constants).binding? x name = some b ↔
      s.binding? x name = some b ∨
      (x = id ∧ ∃ value, (name, value) ∈ constants ∧ b = ⟨name, value, .constant⟩) := by
  induction constants generalizing s with
  | nil => simp [withConstants]
  | cons constant rest ih =>
    obtain ⟨first, value⟩ := constant
    obtain ⟨hnotMem, -⟩ := List.nodup_cons.1 h.nodup
    have hnew : s.binding? id first = none := h.unbound _ List.mem_cons_self
    have hrest := ih h.tail
    rw [withConstants] at hrest ⊢
    rw [List.foldl_cons, hrest, binding?_rebind_insert h.live hnew]
    -- The first constant is bound at once, and none of the others has its name.
    by_cases hfirst : x = id ∧ name = first
    · obtain ⟨rfl, rfl⟩ := hfirst
      have hnone (value : Value) : (name, value) ∉ rest := fun hmem =>
        hnotMem (List.mem_map.2 ⟨_, hmem, rfl⟩)
      simp [hnew, hnone, eq_comm]
    · have hne (h : x = id) : name ≠ first := fun heq => hfirst ⟨h, heq⟩
      rw [if_neg hfirst]
      refine or_congr_right (and_congr_right fun hx => ?_)
      simp [hne hx]

/-- `addRoot` makes a scope that nothing is around and that binds nothing. -/
theorem get?_addRoot (s : Store) : s.addRoot.2.get? s.addRoot.1 = some ⟨.empty, [], 1⟩ := by
  rw [addRoot, get?_add, if_pos rfl]

/-- `binding?` finds nothing in a new outermost scope. -/
theorem binding?_addRoot (s : Store) (name : String) :
    s.addRoot.2.binding? s.addRoot.1 name = none := by
  rw [binding?_of_get? (get?_addRoot s)]
  rfl

/-- `withConstants` does not change what is around a scope. -/
theorem chain_withConstants : (s.withConstants id constants).chain x = s.chain x := by
  induction constants generalizing s with
  | nil => rfl
  | cons constant rest ih => exact ih.trans (chain_rebind _ _ _ _)

/-- `withConstants` does not change who holds a scope. -/
theorem holds_withConstants : ((s.withConstants id constants).get? x).map Scope.holds =
    (s.get? x).map Scope.holds := by
  induction constants generalizing s with
  | nil => rfl
  | cons constant rest ih => exact ih.trans (holds_rebind _ _ _ _)

end Store

/-- Functions with their names, numbered from `first` on. -/
def numbered (first : Nat) : List Builtin → List (String × Value)
  | [] => []
  | builtin :: rest =>
    (builtin.name, .native ⟨first, builtin.name⟩) :: numbered (first + 1) rest

/-- What a global scope binds, if the functions of the catalogue are numbered from `first` on. -/
def globals (first : Nat) : List (String × Value) := literals ++ numbered first Builtin.catalogue

/-! ## Names -/

/-- `numbered` functions have their names, in their order. -/
theorem map_fst_numbered (first : Nat) (builtins : List Builtin) :
    (numbered first builtins).map Prod.fst = builtins.map Builtin.name := by
  induction builtins generalizing first with
  | nil => rfl
  | cons builtin rest ih => rw [numbered, List.map_cons, ih, List.map_cons]

/-- `numbered` gives the functions numbers in turn. -/
theorem mem_numbered {first i : Nat} {builtins : List Builtin} {builtin : Builtin}
    (hi : builtins[i]? = some builtin) :
    (builtin.name, .native ⟨first + i, builtin.name⟩) ∈ numbered first builtins := by
  -- Induction on the functions: those after the first are numbered from the next number on.
  induction builtins generalizing first i with
  | nil => cases hi
  | cons other rest ih =>
    cases i with
    | zero =>
      cases hi
      exact List.mem_cons_self
    | succ i =>
      rw [Nat.add_comm i, ← Nat.add_assoc]
      exact List.mem_cons_of_mem _ (ih hi)

/-- `Builtin.names` are those of the functions of the catalogue, in their order, also where output
and clock have a list of their own. -/
theorem Builtin.names_eq : Builtin.names = Builtin.catalogue.map Builtin.name := by
  have hfirst : inputOutputNames = inputOutput.map Builtin.name := rfl
  rw [names, hfirst, catalogue, List.map_append, List.map_append]

/-- `globals` have the names of the literals and of the catalogue. -/
theorem map_fst_globals (first : Nat) :
    (globals first).map Prod.fst = literals.map Prod.fst ++ Builtin.names := by
  rw [globals, List.map_append, map_fst_numbered, Builtin.names_eq]

/-- The literals and the functions of the catalogue have different names. -/
theorem nodup_names : (literals.map Prod.fst ++ Builtin.names).Nodup := by
  decide +kernel

namespace Session

variable {s : Session} {scope : ScopeId} {sink : SinkId}

/-! ## One by one -/

/-- `declareConstants` declares one by one what `withConstants` has together. -/
theorem declareConstants_eq {constants : List (String × Value)}
    (h : s.store.Admits scope constants) : declareConstants scope constants s =
      (.ok (), { s with store := s.store.withConstants scope constants }) := by
  induction constants generalizing s with
  | nil => rfl
  | cons constant rest ih =>
    obtain ⟨name, value⟩ := constant
    have hnew : s.store.binding? scope name = none := h.unbound _ List.mem_cons_self
    rw [declareConstants, declare, Store.declare_of_unbound hnew]
    exact ih (s := { s with store := s.store.rebind scope (·.insert ⟨name, value, .constant⟩) })
      h.tail

/-- `installAll` makes and declares one by one what `numbered` has together. -/
theorem installAll_eq {builtins : List Builtin}
    (h : s.store.Admits scope (numbered s.natives.size builtins)) :
    installAll scope sink builtins s =
      (.ok (), { s with
        store := s.store.withConstants scope (numbered s.natives.size builtins)
        natives := s.natives ++ (builtins.map fun builtin => bodyOf sink builtin.behaviour) }) := by
  induction builtins generalizing s with
  | nil => simp [installAll, numbered, Store.withConstants]
  | cons builtin rest ih =>
    -- One function is made and declared; the others are numbered from the next number on.
    let made : Session := { s with
      store := s.store.rebind scope
        (·.insert ⟨builtin.name, .native ⟨s.natives.size, builtin.name⟩, .constant⟩)
      natives := s.natives.push (bodyOf sink builtin.behaviour) }
    have hsize : made.natives.size = s.natives.size + 1 := Array.size_push _
    have hnew : s.store.binding? scope builtin.name = none := h.unbound _ List.mem_cons_self
    have hstep : installAll scope sink (builtin :: rest) s = installAll scope sink rest made := by
      rw [installAll]
      simp only [register, declare, Store.declare_of_unbound hnew]
      rfl
    have hrest : made.store.Admits scope (numbered made.natives.size rest) := by
      rw [hsize]
      exact h.tail
    rw [hstep, ih hrest, hsize, ← Array.appendList_cons]
    rfl

/-- `installAll` takes two groups one after the other, the second one only if the first one did not
fail. -/
theorem installAll_append (s : Session) (scope : ScopeId) (sink : SinkId)
    (first second : List Builtin) : installAll scope sink (first ++ second) s =
      match installAll scope sink first s with
      | (.ok _, s) => installAll scope sink second s
      | (.error e, s) => (.error e, s) := by
  induction first generalizing s with
  | nil => rfl
  | cons builtin rest ih =>
    -- Both lists begin with the same function, and differ only in what follows.
    rw [List.cons_append, installAll, installAll]
    dsimp only
    generalize (s.register builtin.name (bodyOf sink builtin.behaviour)).2.declare scope
      builtin.name _ .constant = outcome
    obtain ⟨answer, made⟩ := outcome
    cases answer with
    | error e => rfl
    | ok value => exact ih made

/-- `installCatalogue` installs its groups like one list of functions. -/
theorem installCatalogue_eq (s : Session) (scope : ScopeId) (sink : SinkId) :
    s.installCatalogue scope sink =
      ((installAll scope sink Builtin.catalogue s).1.map fun _ => Builtin.names.length,
        (installAll scope sink Builtin.catalogue s).2) := by
  have hlength : Builtin.names.length = Builtin.inputOutputNames.length +
      Builtin.mathematics.length + Builtin.text.length := by
    simp only [Builtin.names, List.length_append, List.length_map]
  rw [installCatalogue, Builtin.catalogue, installAll_append, installAll_append, hlength]
  -- Each group is reached only if the one before it did not fail.
  generalize installAll scope sink Builtin.inputOutput s = outcome
  obtain ⟨answer, s⟩ := outcome
  cases answer with
  | error e => rfl
  | ok =>
    dsimp only
    generalize installAll scope sink Builtin.mathematics s = outcome
    obtain ⟨answer, s⟩ := outcome
    cases answer <;> rfl

/-- What is appended to the natives is numbered from the next number on. -/
theorem getElem?_natives_append (natives : Array NativeBody) (bodies : List NativeBody) (i : Nat) :
    (natives ++ bodies)[natives.size + i]? = bodies[i]? := by
  rw [← Array.getElem?_toList, Array.toList_appendList, ← Array.length_toList,
    List.getElem?_append_right (Nat.le_add_right _ _), Nat.add_sub_cancel_left]

/-! ## The global scope -/

/-- `Admits` is true of a new scope, the literals and the catalogue. -/
theorem admits_globals (s : Session) :
    s.store.addRoot.2.Admits s.store.addRoot.1 (globals s.natives.size) := by
  refine ⟨Store.live_of_get? s.store.get?_addRoot, ?_, fun constant _ => ?_⟩
  · rw [map_fst_globals]
    exact nodup_names
  · exact s.store.binding?_addRoot constant.1

/-- `addGlobal` never fails.  The scope has the literals and the catalogue, and nothing else is
changed. -/
theorem addGlobal_eq (s : Session) (sink : SinkId) : s.addGlobal sink =
    (.ok s.store.addRoot.1, { s with
      store := s.store.addRoot.2.withConstants s.store.addRoot.1 (globals s.natives.size)
      natives := s.natives ++
        Builtin.catalogue.map fun builtin => bodyOf sink builtin.behaviour }) := by
  have h := s.admits_globals
  rw [globals] at h ⊢
  rw [addGlobal]
  dsimp only
  -- The literals come first, and then the three groups.
  rw [@declareConstants_eq { s with store := s.store.addRoot.2 } _ _ h.left]
  dsimp only
  rw [installCatalogue_eq, @installAll_eq { s with
    store := s.store.addRoot.2.withConstants s.store.addRoot.1 literals } _ _ _ h.right,
    Store.withConstants_append]
  rfl

/-- `addGlobal` makes a scope that binds the literals and the catalogue as constants, and nothing
else. -/
theorem binding?_addGlobal (s : Session) (sink : SinkId) (name : String) (b : Binding) :
    (s.addGlobal sink).2.store.binding? s.store.addRoot.1 name = some b ↔
      ∃ value, (name, value) ∈ globals s.natives.size ∧ b = ⟨name, value, .constant⟩ := by
  rw [addGlobal_eq, Store.binding?_withConstants s.admits_globals, Store.binding?_addRoot]
  simp

/-- `hasLocal` in a new global scope is true of the names of the literals and of the catalogue. -/
theorem hasLocal_addGlobal (s : Session) (sink : SinkId) (name : String) :
    (s.addGlobal sink).2.store.hasLocal s.store.addRoot.1 name = true ↔
      name ∈ literals.map Prod.fst ++ Builtin.names := by
  rw [Store.hasLocal_eq, Option.isSome_iff_exists, ← map_fst_globals s.natives.size]
  simp only [binding?_addGlobal, List.mem_map]
  constructor
  · rintro ⟨b, value, hmem, -⟩
    exact ⟨_, hmem, rfl⟩
  · rintro ⟨constant, hmem, rfl⟩
    exact ⟨_, constant.2, hmem, rfl⟩

end Session

end ScriptCore
