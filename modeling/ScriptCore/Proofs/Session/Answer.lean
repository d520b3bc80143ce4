import ScriptCore.Proofs.Session.Call

/-!
# Results of calls

What a function of the catalogue answers depends on its arguments alone, for all that do not ask for
the time or for chance.  So it can be told once for all sessions in which a global scope was made,
however they have gone on, and for calls from any scope.

* `IsGlobal`: a scope was made with the catalogue, and is still there;
* `Answers`: the result of calling what a name stands for;
* `IsGlobal.answers`: a function answers what its body gives;
* `IsGlobal.answers_error`: it answers with an error what it fails for.
-/

namespace ScriptCore

namespace Session

variable {s : Session} {x : ScopeId} {name : String} {arguments : List Value}
  {result other : Except NativeError Value} {builtin : Builtin} {error : NativeError}

/-- In the course of the session a scope was made with the literals and the catalogue, and it is
still there. -/
def IsGlobal (s : Session) (x : ScopeId) : Prop :=
  ∃ (before : Session) (sink : Sink) (later : List Step),
    (before.step (.newGlobal sink)).2.scope? before.handles.size = some x ∧
    s = before.run (.newGlobal sink :: later) ∧ s.store.Live x

/-- In a scope a name stands for a function that has a result for arguments, from wherever it is
called. -/
def Answers (s : Session) (x : ScopeId) (name : String) (arguments : List Value)
    (result : Except NativeError Value) : Prop :=
  ∃ f : Native, s.store.lookup x name = .ok (.native f) ∧
    ∀ caller, (s.invoke f arguments caller).1 = result

/-- `Answers` is true of one result. -/
theorem Answers.unique (h : s.Answers x name arguments result)
    (h' : s.Answers x name arguments other) : result = other := by
  obtain ⟨f, hf, hresult⟩ := h
  obtain ⟨g, hg, hother⟩ := h'
  cases hf.symm.trans hg
  exact (hresult x).symm.trans (hother x)

/-- `IsGlobal` scopes have the literals and the catalogue at any time. -/
theorem IsGlobal.exists_hasGlobals (h : s.IsGlobal x) : ∃ sink first, s.HasGlobals x sink first := by
  obtain ⟨before, sink, later, hscope, rfl, hlive⟩ := h
  rw [run_cons] at hlive ⊢
  rw [step_newGlobal] at hscope hlive ⊢
  cases (before.scope?_openGlobal sink).symm.trans hscope
  exact ⟨_, _, (before.hasGlobals_openGlobal sink).keeps
    (follows_run _ later).keepsConstants hlive⟩

/-- `IsGlobal` is true of a scope that was made with the catalogue as long as its handle is not
dropped. -/
theorem isGlobal_run {before : Session} (hbefore : before.Sound) (sink : Sink) {later : List Step}
    (hkept : before.handles.size ∉ later.flatMap Step.dropped) :
    (before.run (.newGlobal sink :: later)).IsGlobal before.store.addRoot.1 := by
  have hscope : (before.step (.newGlobal sink)).2.scope? before.handles.size =
      some before.store.addRoot.1 := by
    rw [step_newGlobal]
    exact scope?_openGlobal _ _
  refine ⟨before, sink, later, hscope, rfl, ?_⟩
  rw [run_cons]
  exact live_run ((follows_step _ _).sound hbefore) hscope hkept

/-- `IsGlobal.answers`: a function of the catalogue answers what its body gives for the arguments.
-/
theorem IsGlobal.answers (h : s.IsGlobal x) {body : Ambient → List Value → Except NativeError Value}
    (hrow : Builtin.find? name = some ⟨name, .compute body⟩)
    (hbody : ∀ ambient, body ambient arguments = result) : s.Answers x name arguments result := by
  obtain ⟨sink, first, hglobals⟩ := h.exists_hasGlobals
  obtain ⟨f, -, hlookup, hnative⟩ := hglobals.exists_native (Builtin.mem_of_find? name hrow)
  refine ⟨f, hlookup, fun caller => ?_⟩
  rw [invoke, hnative]
  exact hbody _

/-- `IsGlobal.answers_error`: a function of the catalogue answers with the error that it fails with.
-/
theorem IsGlobal.answers_error (h : s.IsGlobal x) (hbuiltin : builtin ∈ Builtin.catalogue)
    (hfails : builtin.Fails arguments error) :
    s.Answers x builtin.name arguments (.error error) := by
  obtain ⟨sink, first, hglobals⟩ := h.exists_hasGlobals
  obtain ⟨f, -, hlookup, hnative⟩ := hglobals.exists_native hbuiltin
  exact ⟨f, hlookup, fun caller => (invoke_eq_error_iff hbuiltin hnative).2 hfails⟩

/-! ## Functions of numbers

For a row with a shape, `hrow` is evaluated where the lemma is used, and so tells the function that
the row has. -/

/-- A row of the shape `variadic` answers what it makes of any numbers. -/
theorem IsGlobal.answers_variadic (h : s.IsGlobal x) {f : List Float → Float}
    (hrow : Builtin.find? name = some (.of name (Builtin.variadic name f))) (xs : List Float) :
    s.Answers x name (xs.map .number) (.ok (.number (f xs))) :=
  h.answers hrow fun _ => Builtin.variadic_map_number f xs

/-- A row of the shape `statistic` answers what it makes of numbers, and one at least. -/
theorem IsGlobal.answers_statistic (h : s.IsGlobal x) {f : List Float → Float}
    (hrow : Builtin.find? name = some (.of name (Builtin.statistic name f))) {xs : List Float}
    (hne : xs ≠ []) : s.Answers x name (xs.map .number) (.ok (.number (f xs))) :=
  h.answers hrow fun _ => Builtin.statistic_map_number f hne

/-! ## Functions of texts -/

/-- `strLen` answers the number of characters. -/
theorem IsGlobal.answers_strLen (h : s.IsGlobal x) (text : String) :
    s.Answers x "strLen" [.string text] (.ok (.number (Number.ofNat text.length))) := by
  have hrow : Builtin.find? "strLen" = some (.of "strLen" Builtin.textLength) := rfl
  exact h.answers hrow fun _ => rfl

/-- A row of the shape `textMap` answers what it makes of a text. -/
theorem IsGlobal.answers_textMap (h : s.IsGlobal x) {f : List Char → List Char}
    (hrow : Builtin.find? name = some (.of name (Builtin.textMap name f))) (text : String) :
    s.Answers x name [.string text] (.ok (.string (String.ofList (f text.toList)))) :=
  h.answers hrow fun _ => rfl

/-- A row of the shape `textTest` answers what it tells of two texts. -/
theorem IsGlobal.answers_textTest (h : s.IsGlobal x) {f : List Char → List Char → Bool}
    (hrow : Builtin.find? name = some (.of name (Builtin.textTest name f)))
    (text pattern : String) :
    s.Answers x name [.string text, .string pattern]
      (.ok (.boolean (f text.toList pattern.toList))) :=
  h.answers hrow fun _ => rfl

/-- A row of the shape `textReplace` answers what it makes of three texts. -/
theorem IsGlobal.answers_textReplace (h : s.IsGlobal x)
    {f : List Char → List Char → List Char → List Char}
    (hrow : Builtin.find? name = some (.of name (Builtin.textReplace name f)))
    (text pattern replacement : String) :
    s.Answers x name [.string text, .string pattern, .string replacement]
      (.ok (.string (String.ofList (f text.toList pattern.toList replacement.toList)))) :=
  h.answers hrow fun _ => rfl

end Session

end ScriptCore
