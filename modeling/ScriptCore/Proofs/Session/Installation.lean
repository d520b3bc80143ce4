import ScriptCore.Proofs.Scope.Effect
import ScriptCore.Proofs.Session.Permanence

/-!
# Installing the catalogue

The catalogue can be declared in any scope.  Its functions are made and bound one after the other, up
to the first one with a name that the scope itself has declared; scopes around it do not matter.
What was bound until then stays.

* `Installed`, `installed_withConstants`: what has become of a session in which functions were
  installed;
* `installAll_cases`: all of them are installed, or those before the first clash;
* `installs_catalogue`: so it is for the catalogue.
-/

namespace ScriptCore

namespace Store

variable {s : Store} {id : ScopeId} {constants : List (String × Value)}

/-- `withConstants` adds one name for each constant. -/
theorem localSize_withConstants (h : s.Admits id constants) (x : ScopeId) :
    (s.withConstants id constants).localSize x =
      s.localSize x + if x = id then constants.length else 0 := by
  induction constants generalizing s with
  | nil => simp [withConstants]
  | cons constant rest ih =>
    have hnew : s.binding? id constant.1 = none := h.unbound _ List.mem_cons_self
    have hfirst := declared_rebind (b := ⟨constant.1, constant.2, .constant⟩) h.live hnew
    have hrest := ih h.tail
    -- The first constant is one name more, and then come the others.
    rw [withConstants] at hrest ⊢
    rw [List.foldl_cons, hrest, hfirst.localSize_eq, List.length_cons]
    split <;> omega

end Store

namespace Session

/-- The second session is what the first one becomes when functions are installed in a scope, printing
to a sink. -/
structure Installed (s s' : Session) (scope : ScopeId) (sink : SinkId)
    (builtins : List Builtin) : Prop where
  /-- The name of each function is a constant now, and stands for a new native of that name. -/
  bindsConstant : ∀ builtin ∈ builtins, ∃ f : Native, f.name = builtin.name ∧
    s.natives.size ≤ f.id ∧ s'.natives[f.id]? = some (bodyOf sink builtin.behaviour) ∧
    s'.store.BindsConstant scope builtin.name (.native f)
  /-- All other bindings and constants, in whatever scope, are as before. -/
  binding?_eq : ∀ {x name}, ¬ (x = scope ∧ name ∈ builtins.map Builtin.name) →
    s'.store.binding? x name = s.store.binding? x name
  localSize_eq : ∀ x, s'.store.localSize x =
    s.store.localSize x + if x = scope then builtins.length else 0
  chain_eq : ∀ x, s'.store.chain x = s.store.chain x
  holds_eq : ∀ x, (s'.store.get? x).map Scope.holds = (s.store.get? x).map Scope.holds
  native_of_native : ∀ {i : Nat} {body : NativeBody}, s.natives[i]? = some body →
    s'.natives[i]? = some body
  rest_eq : { s' with store := s.store, natives := s.natives } = s

variable {s : Session} {scope : ScopeId} {sink : SinkId} {taken : Builtin}
  {builtins : List Builtin}

/-! ## A clash -/

/-- `installAll` stops at a name that is taken.  The function has been made, but it is bound
nowhere. -/
theorem installAll_of_taken (sink : SinkId) (after : List Builtin)
    (h : s.store.hasLocal scope taken.name = true) :
    installAll scope sink (taken :: after) s =
      (.error (.duplicate taken.name),
        { s with natives := s.natives.push (bodyOf sink taken.behaviour) }) := by
  rw [Store.hasLocal_eq, Option.isSome_iff_exists] at h
  obtain ⟨b, hb⟩ := h
  rw [installAll]
  simp only [register, declare, Store.declare_of_bound hb]

/-- `Array.push` after a list is the list with one more. -/
theorem push_natives_append (natives : Array NativeBody) (bodies : List NativeBody)
    (body : NativeBody) : (natives ++ bodies).push body = natives ++ (bodies ++ [body]) := by
  rw [← Array.toList_inj, Array.toList_push, Array.toList_appendList, Array.toList_appendList,
    List.append_assoc]

/-! ## What has been installed -/

/-- `Admits` is true of functions if the scope has declared none of their names. -/
theorem admits_numbered (hlive : s.store.Live scope) (hnodup : (builtins.map Builtin.name).Nodup)
    (hfree : ∀ builtin ∈ builtins, s.store.hasLocal scope builtin.name = false) (first : Nat) :
    s.store.Admits scope (numbered first builtins) := by
  refine ⟨hlive, by rwa [map_fst_numbered], fun constant hconstant => ?_⟩
  have hname : constant.1 ∈ builtins.map Builtin.name := by
    rw [← map_fst_numbered first]
    exact List.mem_map_of_mem hconstant
  obtain ⟨builtin, hbuiltin, heq⟩ := List.mem_map.1 hname
  have hunbound := hfree builtin hbuiltin
  rw [Store.hasLocal_eq, heq] at hunbound
  simpa using hunbound

/-- `Installed` is true of functions that were made and bound as numbered constants, whatever else
was made after them. -/
theorem installed_withConstants (sink : SinkId)
    (h : s.store.Admits scope (numbered s.natives.size builtins)) (more : List NativeBody) :
    s.Installed { s with
      store := s.store.withConstants scope (numbered s.natives.size builtins)
      natives := s.natives ++
        ((builtins.map fun builtin => bodyOf sink builtin.behaviour) ++ more) }
      scope sink builtins where
  bindsConstant := by
    intro builtin hbuiltin
    obtain ⟨i, hi⟩ := List.getElem?_of_mem hbuiltin
    refine ⟨⟨s.natives.size + i, builtin.name⟩, rfl, Nat.le_add_right _ _, ?_, ?_⟩
    · have hbody : (builtins.map fun builtin => bodyOf sink builtin.behaviour)[i]? =
          some (bodyOf sink builtin.behaviour) := by
        rw [List.getElem?_map, hi, Option.map_some]
      dsimp only
      rw [getElem?_natives_append, List.getElem?_append_left (List.getElem?_eq_some_iff.1 hbody).1,
        hbody]
    · rw [Store.bindsConstant_iff, Store.binding?_withConstants h]
      exact .inr ⟨rfl, _, mem_numbered hi, rfl⟩
  binding?_eq := by
    intro x name hother
    refine Option.ext fun b => ?_
    rw [Store.binding?_withConstants h, or_iff_left]
    rintro ⟨rfl, value, hmem, -⟩
    refine hother ⟨rfl, ?_⟩
    rw [← map_fst_numbered s.natives.size]
    exact List.mem_map.2 ⟨_, hmem, rfl⟩
  localSize_eq := by
    intro x
    have hlength : (numbered s.natives.size builtins).length = builtins.length := by
      rw [← List.length_map (f := Prod.fst), map_fst_numbered, List.length_map]
    rw [Store.localSize_withConstants h, hlength]
  chain_eq _ := Store.chain_withConstants
  holds_eq _ := Store.holds_withConstants
  native_of_native := by
    intro i body hbody
    exact (s.writes_natives _ s.output).native_of_native hbody
  rest_eq := rfl

/-- `installAll` installs all functions, if no name is taken, or those before the first taken name.
-/
theorem installAll_cases (hlive : s.store.Live scope)
    (hnodup : (builtins.map Builtin.name).Nodup) (sink : SinkId) :
    ((∀ builtin ∈ builtins, s.store.hasLocal scope builtin.name = false) ∧
      (installAll scope sink builtins s).1 = .ok () ∧
      s.Installed (installAll scope sink builtins s).2 scope sink builtins) ∨
    ∃ before taken after, builtins = before ++ taken :: after ∧
      (∀ builtin ∈ before, s.store.hasLocal scope builtin.name = false) ∧
      s.store.hasLocal scope taken.name = true ∧
      (installAll scope sink builtins s).1 = .error (.duplicate taken.name) ∧
      s.Installed (installAll scope sink builtins s).2 scope sink before := by
  -- The search for a taken name decides.
  cases hfind : builtins.find? (s.store.hasLocal scope ·.name) with
  | none =>
    have hfree (builtin : Builtin) (hbuiltin : builtin ∈ builtins) :
        s.store.hasLocal scope builtin.name = false :=
      Bool.eq_false_iff.2 (List.find?_eq_none.1 hfind builtin hbuiltin)
    have hadmits := admits_numbered hlive hnodup hfree s.natives.size
    have hinstalled := installed_withConstants sink hadmits []
    rw [List.append_nil] at hinstalled
    rw [installAll_eq hadmits]
    exact .inl ⟨hfree, rfl, hinstalled⟩
  | some taken =>
    obtain ⟨htaken, before, after, rfl, hbefore⟩ := List.find?_eq_some_iff_append.1 hfind
    have hfree (builtin : Builtin) (hbuiltin : builtin ∈ before) :
        s.store.hasLocal scope builtin.name = false := by
      simpa using hbefore builtin hbuiltin
    rw [List.map_append] at hnodup
    have hadmits := admits_numbered hlive (List.nodup_append.1 hnodup).1 hfree s.natives.size
    have hinstalled := installed_withConstants sink hadmits [bodyOf sink taken.behaviour]
    -- The name is still taken when it is its turn, since no other function has it.
    have htaken' : (s.store.withConstants scope (numbered s.natives.size before)).hasLocal scope
        taken.name = true := by
      have hother : taken.name ∉ before.map Builtin.name := fun hmem =>
        (List.nodup_append.1 hnodup).2.2 _ hmem _ (List.mem_cons_self) rfl
      rw [Store.hasLocal_eq, hinstalled.binding?_eq fun hboth => hother hboth.2, ← Store.hasLocal_eq]
      exact htaken
    have hstop := installAll_of_taken sink after (s := { s with
      store := s.store.withConstants scope (numbered s.natives.size before)
      natives := s.natives ++ before.map fun builtin => bodyOf sink builtin.behaviour }) htaken'
    rw [push_natives_append] at hstop
    rw [installAll_append, installAll_eq hadmits]
    dsimp only
    rw [hstop]
    exact .inr ⟨before, taken, after, rfl, hfree, htaken, rfl, hinstalled⟩

/-! ## The catalogue -/

/-- `names` of the catalogue are those of its functions, in their order.  It can be installed in a
scope exactly if the scope itself has declared none of these names, whatever is declared around it;
then all functions are installed, and their number is the answer.  Otherwise the first name that is
taken, in the order of the catalogue, is the error, and the functions before it are installed.
Nothing else changes. -/
theorem installs_catalogue (s : Session) (sink : SinkId) (hlive : s.store.Live scope) :
    Builtin.names = Builtin.catalogue.map Builtin.name ∧
    ((∃ count, (s.installCatalogue scope sink).1 = .ok count) ↔
      ∀ name ∈ Builtin.names, s.store.hasLocal scope name = false) ∧
    (∀ count, (s.installCatalogue scope sink).1 = .ok count → count = Builtin.names.length ∧
      s.Installed (s.installCatalogue scope sink).2 scope sink Builtin.catalogue) ∧
    ∀ e, (s.installCatalogue scope sink).1 = .error e →
      ∃ before taken after, Builtin.catalogue = before ++ taken :: after ∧
        (∀ builtin ∈ before, s.store.hasLocal scope builtin.name = false) ∧
        s.store.hasLocal scope taken.name = true ∧ e = .duplicate taken.name ∧
        s.Installed (s.installCatalogue scope sink).2 scope sink before := by
  have hnodup : (Builtin.catalogue.map Builtin.name).Nodup := by
    rw [← Builtin.names_eq]
    exact (List.nodup_append.1 nodup_names).2.1
  refine ⟨Builtin.names_eq, ?_⟩
  rw [installCatalogue_eq, Builtin.names_eq]
  -- Nothing else depends on what the catalogue is.
  generalize Builtin.catalogue = builtins at hnodup ⊢
  rcases installAll_cases hlive hnodup sink with ⟨hfree, hok, hinstalled⟩ |
    ⟨before, taken, after, rfl, hfree, htaken, herror, hinstalled⟩
  · rw [hok]
    refine ⟨iff_of_true ⟨_, rfl⟩ (List.forall_mem_map.2 hfree), fun count hcount => ?_, nofun⟩
    cases hcount
    exact ⟨rfl, hinstalled⟩
  · rw [herror]
    refine ⟨iff_of_false nofun fun hnone => ?_, nofun, fun e he => ?_⟩
    · have hmem : taken ∈ before ++ taken :: after := List.mem_append_right _ List.mem_cons_self
      cases htaken.symm.trans (hnone _ (List.mem_map_of_mem hmem))
    · cases he
      exact ⟨before, taken, after, rfl, hfree, htaken, rfl, hinstalled⟩

/-- A scope has declared `time`, which comes third.  So the catalogue is not installed there as a
whole, but in a scope inside it is. -/
theorem installs_catalogue_time :
    let s := (start 0 0).run [.newRoot, .onScope 0 (.declare "time" (.value .null) .mutable),
      .onScope 0 (.child 1)]
    s.store.Live ⟨0⟩ ∧ s.store.Live ⟨1⟩ ∧
      (s.installCatalogue ⟨0⟩ ⟨0⟩).1 = .error (.duplicate "time") ∧
      (s.installCatalogue ⟨0⟩ ⟨0⟩).2.store.hasLocal ⟨0⟩ "print" = true ∧
      (s.installCatalogue ⟨0⟩ ⟨0⟩).2.store.binding? ⟨0⟩ "time" =
        some ⟨"time", .null, .mutable⟩ ∧
      (s.installCatalogue ⟨1⟩ ⟨0⟩).1 = .ok Builtin.names.length := by
  intro s
  have houter : s.store.Live ⟨0⟩ := by decide
  have hinner : s.store.Live ⟨1⟩ := by decide
  obtain ⟨hnames, houterOk, -, houterError⟩ := installs_catalogue s ⟨0⟩ houter
  obtain ⟨-, hinnerOk, hinnerCount, -⟩ := installs_catalogue s ⟨0⟩ hinner
  have htime : s.store.hasLocal ⟨0⟩ "time" = true := by decide
  have honly : ∀ name ∈ Builtin.names, s.store.hasLocal ⟨0⟩ name = true → name = "time" := by
    decide +kernel
  obtain ⟨count, hcount⟩ := hinnerOk.2 (by decide +kernel)
  cases (hinnerCount count hcount).1
  cases houtcome : (s.installCatalogue ⟨0⟩ ⟨0⟩).1 with
  | ok count =>
    cases htime.symm.trans (houterOk.1 ⟨count, houtcome⟩ "time" (by decide +kernel))
  | error e =>
    obtain ⟨before, taken, after, hcatalogue, hfree, htaken, rfl, hinstalled⟩ :=
      houterError e houtcome
    have hmem : taken.name ∈ Builtin.names := by
      rw [hnames, hcatalogue, List.map_append]
      exact List.mem_append_right _ List.mem_cons_self
    have hname : taken.name = "time" := honly _ hmem htaken
    have hhead : (before.map Builtin.name ++ taken.name :: after.map Builtin.name).head? =
        some "print" := by
      rw [← List.map_cons, ← List.map_append, ← hcatalogue]
      rfl
    refine ⟨houter, hinner, by rw [hname], ?_, ?_, hcount⟩
    · cases before with
      | nil => exact absurd (hname.symm.trans (Option.some.inj hhead)) (by decide)
      | cons first rest =>
        -- The first function comes before the clash.
        obtain ⟨f, -, -, -, hprint⟩ := hinstalled.bindsConstant first List.mem_cons_self
        rw [show first.name = "print" from Option.some.inj hhead] at hprint
        exact hprint.hasLocal
    · rw [hinstalled.binding?_eq]
      · decide
      · rintro ⟨-, htime⟩
        obtain ⟨builtin, hbuiltin, heq⟩ := List.mem_map.1 htime
        cases (hfree builtin hbuiltin).symm.trans (heq ▸ hname ▸ htaken)

end Session

end ScriptCore
