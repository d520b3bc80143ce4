import ScriptCore.Proofs.Scope.Change
import ScriptCore.Session.Step

/-!
# What evaluation writes

Evaluating, calling native functions, and declaring and assigning names leave all handles and native
functions as they are.  All that they do to the scopes is to declare names and to assign to them.

* `HostAction.reaches_run`: a host function only declares and assigns;
* `writes_eval`: so does an expression, however deep the calls in it are.
-/

namespace ScriptCore

/-! ## Names in a store -/

/-- Declaring is a change or fails. -/
theorem Store.reaches_declare (s : Store) (handles : Multiset ScopeId) (id : ScopeId)
    (name : String) (value : Value) (m : Mutability) :
    Reaches (s, handles) ((s.declare id name value m).2, handles) := by
  rcases s.declare_cases id name value m with ⟨b, -, heq⟩ | ⟨hnew, heq⟩
  · rw [heq]
  · rw [heq]
    exact .single (.declared hnew)

/-- Assigning is a change or fails. -/
theorem Store.reaches_assign (s : Store) (handles : Multiset ScopeId) (id : ScopeId)
    (name : String) (value : Value) :
    Reaches (s, handles) ((s.assign id name value).2, handles) := by
  rcases s.assign_cases id name value with ⟨e, heq⟩ | ⟨owner, b, -, hb, hm, heq⟩
  · rw [heq]
  · rw [heq]
    exact .single (.assigned hb hm)

/-- A host function only declares and assigns. -/
theorem HostAction.reaches_run (scope : ScopeId) (action : HostAction) (s : Store)
    (handles : Multiset ScopeId) : Reaches (s, handles) ((action.run scope s).2, handles) := by
  induction action generalizing s with
  | done result => exact .refl
  | lookup name next ih => exact ih (s.lookup scope name) s
  | declare name value m next ih =>
    rw [run]
    exact (s.reaches_declare handles scope name value m).trans (ih _ _)
  -- What was assigned is the state the rest of the action begins with.
  | assign name value next ih =>
    rw [run]
    exact (s.reaches_assign handles scope name value).trans (ih _ _)

namespace Session

/-! ## Writing -/

/-- `Writes s s'` says that `s'` has come of `s` by declaring and assigning names, and by making
native functions. -/
structure Writes (s s' : Session) : Prop where
  handles_eq : s'.handles = s.handles
  /-- Native functions stay what they are. -/
  native_of_native : ∀ {i : Nat} {body : NativeBody}, s.natives[i]? = some body →
    s'.natives[i]? = some body
  reaches : ∀ handles, Reaches (s.store, handles) (s'.store, handles)

variable {s s' s'' : Session}

/-- `Writes` allows to do nothing. -/
theorem Writes.refl (s : Session) : s.Writes s := ⟨rfl, fun h => h, fun _ => .refl⟩

/-- `Writes` allows to do one after the other. -/
theorem Writes.trans (h₁ : s.Writes s') (h₂ : s'.Writes s'') : s.Writes s'' :=
  ⟨h₂.handles_eq.trans h₁.handles_eq, fun h => h₂.native_of_native (h₁.native_of_native h),
    fun handles => (h₁.reaches handles).trans (h₂.reaches handles)⟩

/-- `Writes` allows what `Reaches` allows of the store. -/
theorem writes_store {store : Store}
    (h : ∀ handles, Reaches (s.store, handles) (store, handles)) : s.Writes { s with store } :=
  ⟨rfl, fun h => h, h⟩

/-- What is printed and drawn by chance does not matter. -/
theorem writes_output (s : Session) (output : Output) (chance : UInt64) :
    s.Writes { s with output, chance } := ⟨rfl, fun h => h, fun _ => .refl⟩

/-- `register` makes a native function and leaves those that there are. -/
theorem writes_register (s : Session) (name : String) (body : NativeBody) :
    s.Writes (s.register name body).2 := by
  refine ⟨rfl, fun {i body'} h => ?_, fun _ => .refl⟩
  obtain ⟨hlt, -⟩ := Array.getElem?_eq_some_iff.1 h
  rw [register, Array.getElem?_push, if_neg (by omega), h]

/-- `declare` changes nothing but the store. -/
theorem writes_declare (s : Session) (scope : ScopeId) (name : String) (value : Value)
    (m : Mutability) : s.Writes (s.declare scope name value m).2 :=
  writes_store fun handles => s.store.reaches_declare handles scope name value m

/-- `assign` changes nothing but the store. -/
theorem writes_assign (s : Session) (scope : ScopeId) (name : String) (value : Value) :
    s.Writes (s.assign scope name value).2 :=
  writes_store fun handles => s.store.reaches_assign handles scope name value

/-! ## Calls and expressions -/

/-- `invoke` draws by chance, prints or acts for the host, and writes nothing else. -/
theorem writes_invoke (s : Session) (f : Native) (arguments : List Value) (scope : ScopeId) :
    s.Writes (s.invoke f arguments scope).2 := by
  unfold invoke
  split
  · exact s.writes_output s.output (nextChance s.chance)
  next sink newline _ =>
    exact s.writes_output (s.output.write sink _) s.chance
  next act _ =>
    exact writes_store fun handles => (act arguments).reaches_run scope s.store handles
  · exact .refl s

/-- `apply` writes what the native function writes, and any other value is no function. -/
theorem writes_apply (s : Session) (callee : Value) (arguments : List Value) (scope : ScopeId) :
    s.Writes (s.apply callee arguments scope).2 := by
  cases callee with
  | native f => exact s.writes_invoke f arguments scope
  | null | boolean | number | string => exact .refl s

mutual

/-- An expression writes what the calls in it write. -/
theorem writes_eval (scope : ScopeId) (e : Expression) (s : Session) :
    s.Writes (s.eval scope e).2 := by
  match e with
  | .value v => exact .refl s
  | .host f => exact s.writes_register f.name (.host f.act)
  | .variable handle name =>
    rw [eval]
    cases s.scopeOr handle scope with
    | error e => exact .refl s
    | ok scope => exact .refl s
  | .call handle name arguments =>
    rw [eval]
    cases s.scopeOr handle scope with
    | error e => exact .refl s
    | ok scope =>
      cases hcallee : s.store.lookup scope name with
      | error e =>
        simp only [hcallee]
        exact .refl s
      | ok callee =>
        simp only [hcallee]
        -- The arguments come first, and the call sees what they have written.
        have harguments := writes_evalAll scope arguments s
        generalize s.evalAll scope arguments = answer at harguments ⊢
        match answer with
        | (.error e, after) => exact harguments
        | (.ok values, after) => exact harguments.trans (after.writes_apply callee values scope)

/-- Expressions, evaluated one after the other, write what each of them writes. -/
theorem writes_evalAll (scope : ScopeId) (es : List Expression) (s : Session) :
    s.Writes (s.evalAll scope es).2 := by
  match es with
  | [] => exact .refl s
  | e :: es =>
    rw [evalAll]
    have hfirst := writes_eval scope e s
    generalize s.eval scope e = answer at hfirst ⊢
    match answer with
    | (.error e, after) => exact hfirst
    | (.ok value, after) =>
      -- The rest is evaluated in the session that the first one left.
      have hrest := writes_evalAll scope es after
      dsimp only
      generalize after.evalAll scope es = answers at hrest ⊢
      match answers with
      | (.error e, last) => exact hfirst.trans hrest
      | (.ok values, last) => exact hfirst.trans hrest

end

end Session

end ScriptCore
