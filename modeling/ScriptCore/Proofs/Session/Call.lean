import ScriptCore.Proofs.Native.Catalogue
import ScriptCore.Proofs.Session.Permanence

/-!
# Calls of the catalogue

The functions of a global scope can be called at any time, from any scope, with any arguments.  What
has happened in the session until then makes no difference to whether a call fails, and with which
error.

* `HasGlobals.exists_native`: the names of the catalogue stand for its functions;
* `invoke_of_global`: the errors of all functions for all arguments.
-/

namespace ScriptCore

namespace Session

variable {s : Session} {x caller : ScopeId} {sink : SinkId} {first : Nat} {builtin : Builtin}
  {f : Native} {arguments : List Value} {error : NativeError}

/-- `HasGlobals` makes the name of a function of the catalogue stand for it. -/
theorem HasGlobals.exists_native (h : s.HasGlobals x sink first)
    (hbuiltin : builtin ∈ Builtin.catalogue) :
    ∃ f : Native, f.name = builtin.name ∧ s.store.lookup x builtin.name = .ok (.native f) ∧
      s.natives[f.id]? = some (bodyOf sink builtin.behaviour) := by
  obtain ⟨i, hi⟩ := List.getElem?_of_mem hbuiltin
  refine ⟨⟨first + i, builtin.name⟩, rfl, ?_, h.native_of_builtin hi⟩
  exact (h.bindsConstant _ (List.mem_append_right _ (mem_numbered hi))).lookup

/-- `invoke` of a function of the catalogue fails with the errors that its signature and its domain
have for the arguments. -/
theorem invoke_eq_error_iff (hbuiltin : builtin ∈ Builtin.catalogue)
    (hbody : s.natives[f.id]? = some (bodyOf sink builtin.behaviour)) :
    (s.invoke f arguments caller).1 = .error error ↔ builtin.Fails arguments error := by
  rw [invoke, hbody]
  cases hbehaviour : builtin.behaviour with
  | output newline =>
    -- What prints has no signature, and its name is that of no function with a domain.
    have hnone := Builtin.specified_of_mem hbuiltin
    rw [Builtin.Specified, hbehaviour] at hnone
    have hnames := (Builtin.signed_of_mem hbuiltin).computes.1 hnone
    refine iff_of_false (fun h => by cases h) ?_
    rintro (⟨hsome, -⟩ | ⟨hsome, -⟩ | hdomain)
    · cases hnone.symm.trans hsome
    · cases hnone.symm.trans hsome
    · cases hdomain with
      | emptyRange hfunction => exact absurd (hfunction ▸ hnames) (by decide)
      | resultTooLarge hfunction => exact absurd (hfunction ▸ hnames) (by decide)
  | compute body => exact Builtin.body_eq_error_iff hbuiltin hbehaviour

/-- A global scope, the one that the handle was given to when it was made, offers all functions of
the catalogue at any later time while it is there.  Whatever the arguments are and from wherever it
is called, a function fails exactly as its signature and its domain say; otherwise it has a result.
All errors name the function.  Integers are wanted by `gcd` and `randint`, counts by `factorial`,
`fibonacci` and `strRepeat`, and only `print` and `println` take anything. -/
theorem invoke_of_global (s : Session) (sink : Sink) {global : ScopeId}
    (hglobal : (s.step (.newGlobal sink)).2.scope? s.handles.size = some global)
    (later : List Step) (hlive : (s.run (.newGlobal sink :: later)).store.Live global)
    {builtin : Builtin} (hbuiltin : builtin ∈ Builtin.catalogue) :
    builtin.Signed ∧ ∃ f : Native,
      (s.run (.newGlobal sink :: later)).store.lookup global builtin.name = .ok (.native f) ∧
      ∀ arguments caller,
        (∀ error,
          ((s.run (.newGlobal sink :: later)).invoke f arguments caller).1 = .error error ↔
            builtin.Fails arguments error) ∧
        ((∃ value, ((s.run (.newGlobal sink :: later)).invoke f arguments caller).1 = .ok value) ↔
          ∀ error, ¬builtin.Fails arguments error) ∧
        ∀ error,
          ((s.run (.newGlobal sink :: later)).invoke f arguments caller).1 = .error error →
            error.function? = some builtin.name := by
  have hrun : s.run (.newGlobal sink :: later) = (s.openGlobal sink).run later := by
    rw [run_cons, step_newGlobal]
  rw [step_newGlobal] at hglobal
  cases (s.scope?_openGlobal sink).symm.trans hglobal
  rw [hrun] at hlive ⊢
  -- The scope was made with the catalogue, and no step takes it from a scope that stays.
  have hglobals := (s.hasGlobals_openGlobal sink).keeps (follows_run _ later).keepsConstants hlive
  obtain ⟨f, -, hlookup, hbody⟩ := hglobals.exists_native hbuiltin
  refine ⟨Builtin.signed_of_mem hbuiltin, f, hlookup, fun arguments caller => ?_⟩
  have herror (error : NativeError) := @invoke_eq_error_iff _ caller _ _ _ arguments error
    hbuiltin hbody
  refine ⟨herror, ?_, fun error h => ((herror error).1 h).function?_eq⟩
  simp only [← herror]
  cases (((s.openGlobal sink).run later).invoke f arguments caller).1 <;> simp

/-- A repetition with a missing count, one of what is no text by what is no count, and the question
whether null is a prime. -/
theorem invoke_of_global_repeat :
    let s := (start 0 0).run [.newGlobal .silent, .onScope 0 (.child 1)]
    ∃ f g : Native, s.store.lookup ⟨0⟩ "strRepeat" = .ok (.native f) ∧
      s.store.lookup ⟨0⟩ "isPrime" = .ok (.native g) ∧
      (s.invoke f [.null] ⟨1⟩).1 = .error (.argumentCount "strRepeat" (.exact 2) 1) ∧
      (s.invoke f [.null, .null] ⟨1⟩).1 =
        .error (.argumentType "strRepeat" 0 "string" "null") ∧
      (s.invoke g [.null] ⟨1⟩).1 = .error (.argumentType "isPrime" 0 "number" "null") := by
  intro s
  have hglobal : ((start 0 0).step (.newGlobal .silent)).2.scope? (start 0 0).handles.size =
      some ⟨0⟩ := by
    rw [step_newGlobal]
    exact scope?_openGlobal _ _
  have hsound : ((start 0 0).step (.newGlobal .silent)).2.Sound :=
    (follows_step _ _).sound (sound_start 0 0)
  have hlive : s.store.Live ⟨0⟩ := by
    rw [show s = _ from run_cons _ _ _]
    exact live_run hsound hglobal (by decide)
  have hrepeat : .of "strRepeat" Builtin.textRepeat ∈ Builtin.catalogue :=
    Builtin.mem_of_find? "strRepeat" rfl
  have hprime : .of "isPrime" Builtin.primality ∈ Builtin.catalogue :=
    Builtin.mem_of_find? "isPrime" rfl
  obtain ⟨-, f, hf, hcalls⟩ := invoke_of_global (start 0 0) .silent hglobal
    [.onScope 0 (.child 1)] hlive hrepeat
  obtain ⟨-, g, hg, hcalls'⟩ := invoke_of_global (start 0 0) .silent hglobal
    [.onScope 0 (.child 1)] hlive hprime
  have hsignature : (Builtin.of "strRepeat" Builtin.textRepeat).signature? =
      some (.fixed [.string, .count]) := rfl
  have hsignature' : (Builtin.of "isPrime" Builtin.primality).signature? =
      some (.fixed [.number]) := rfl
  refine ⟨f, g, hf, hg, ?_, ?_, ?_⟩
  · exact ((hcalls [.null] ⟨1⟩).1 _).2 (.count hsignature (by decide))
  · refine ((hcalls [.null, .null] ⟨1⟩).1 _).2 (.argument hsignature (by decide) ?_)
    exact ⟨0, .string, .null, rfl, .wrongType (by decide), fun j hj => absurd hj j.not_lt_zero⟩
  · refine ((hcalls' [.null] ⟨1⟩).1 _).2 (.argument hsignature' (by decide) ?_)
    exact ⟨0, .number, .null, rfl, .wrongType (by decide), fun j hj => absurd hj j.not_lt_zero⟩

end Session

end ScriptCore
