import ScriptCore.Session.Expression

/-!
# Steps

What a host does with a session, one step after the other.  Most steps work on the scope of a
handle.  A step that makes a handle answers its number and the depth of its scope.
-/

namespace ScriptCore

/-- A step on the scope of a handle. -/
inductive ScopeStep where
  /-- Drops the handle. -/
  | drop
  /-- Makes `count` scopes one inside the other, with a handle to the last. -/
  | child (count : Nat)
  | clone
  | root
  | parent
  /-- Makes `count` scopes one inside the other, each declaring `name` as its own depth. -/
  | tower (name : String) (count : Nat) (mutability : Mutability)
  | same (other : Nat)
  | depth
  | localSize
  | inspect
  | hasLocal (name : String)
  | isConstant (name : String)
  | resolve (name : String)
  | declare (name : String) (value : Expression) (mutability : Mutability)
  | assign (name : String) (value : Expression)
  | lookup (name : String)
  | bindings (names : List String)
  | display (value : Expression)
  | equals (a b : Expression)
  /-- Calls a function that is looked up here, from the scope of another handle if one is given. -/
  | call (name : String) (arguments : List Expression) (caller : Option Nat)

/-- A step of a host. -/
inductive Step where
  /-- Makes an outermost scope without bindings. -/
  | newRoot
  /-- Makes an outermost scope with the literals and the catalogue, printing to a new sink. -/
  | newGlobal (sink : Sink)
  | onScope (handle : Nat) (step : ScopeStep)
  | onSink (sink : SinkId) (step : SinkStep)

/-- What a name stands for, as a list of bindings shows it. -/
structure BindingView where
  name : String
  value : Value
  isConstant : Bool
  isLocal : Bool

/-- What a step answers. -/
inductive Answer where
  | none
  | handle (number depth : Nat)
  | owner (depth : Nat) (handles : List Nat)
  | flag (yes : Bool)
  | number (n : Nat)
  | text (s : String)
  | value (v : Value)
  /-- The result of calling a function with arguments. -/
  | called (f : Native) (arguments : List Value) (result : Value)
  | bindings (views : List (Except BindingError BindingView))

namespace Session

/-- Gives a handle to a scope that is held for it. -/
def answerHandle (s : Session) (scope : ScopeId) : Except Failure Answer × Session :=
  let (number, s) := s.addHandle scope
  (.ok (.handle number (s.store.depth scope)), s)

/-- Makes a scope inside the given one, works on it, and goes on inside it, `count` times in all.
The hold on each scope that is left behind is given up, so only the next one holds it. -/
def nest (work : Store → ScopeId → Store) : Nat → Store → ScopeId → ScopeId × Store
  | 0, store, scope => (scope, store)
  | count + 1, store, scope =>
    let (inner, store) := store.addChild scope
    nest work count ((work store inner).release scope) inner

/-- Declares a name in a scope as the depth of the scope. -/
def declareDepth (name : String) (mutability : Mutability) (store : Store) (scope : ScopeId) :
    Store :=
  (store.declare scope name (.number (Number.ofNat (store.depth scope))) mutability).2

/-- What a name stands for in a scope. -/
def view (store : Store) (scope : ScopeId) (name : String) : Except BindingError BindingView := do
  let value ← store.lookup scope name
  let isConstant ← store.isConstant scope name
  return { name, value, isConstant, isLocal := store.hasLocal scope name }

/-- Makes nested scopes and gives a handle to the last one. -/
def nestHandle (s : Session) (scope : ScopeId) (count : Nat)
    (work : Store → ScopeId → Store) : Except Failure Answer × Session :=
  let (inner, store) := nest work count (s.store.retain scope) scope
  { s with store }.answerHandle inner

/-- Answers what a binding operation answered. -/
def answerBinding (answer : Except BindingError α × Session) (f : α → Answer) :
    Except Failure Answer × Session :=
  ((answer.1.map f).mapError .binding, answer.2)

/-- Takes a step on a scope, which the given handle stands for. -/
def scopeStep (s : Session) (handle : Nat) (scope : ScopeId) :
    ScopeStep → Except Failure Answer × Session
  | .drop => (.ok .none, s.dropHandle handle)
  | .child count => s.nestHandle scope count fun store _ => store
  | .tower name count mutability => s.nestHandle scope count (declareDepth name mutability)
  | .clone =>
    let (number, s) := s.shareHandle scope
    (.ok (.handle number (s.store.depth scope)), s)
  | .root =>
    let root := s.store.root scope
    let (number, s) := s.shareHandle root
    (.ok (.handle number (s.store.depth root)), s)
  | .parent =>
    match s.store.parent? scope with
    | some parent =>
      let (number, s) := s.shareHandle parent
      (.ok (.handle number (s.store.depth parent)), s)
    | none => (.ok .none, s)
  | .same other => (s.scopeOr other scope |>.map fun o => .flag (o = scope), s)
  | .depth => (.ok (.number (s.store.depth scope)), s)
  | .localSize => (.ok (.number (s.store.localSize scope)), s)
  | .inspect => (.ok (.text (s.store.inspect scope)), s)
  | .hasLocal name => (.ok (.flag (s.store.hasLocal scope name)), s)
  | .isConstant name => answerBinding (s.store.isConstant scope name, s) .flag
  | .resolve name =>
    answerBinding (s.store.resolve scope name, s) fun owner =>
      .owner (s.store.depth owner) (s.handlesOf owner)
  | .declare name value mutability =>
    match s.eval scope value with
    | (.error e, s) => (.error e, s)
    | (.ok v, s) => answerBinding (s.declare scope name v mutability) .value
  | .assign name value =>
    match s.eval scope value with
    | (.error e, s) => (.error e, s)
    | (.ok v, s) => answerBinding (s.assign scope name v) .value
  | .lookup name => answerBinding (s.store.lookup scope name, s) .value
  | .bindings names => (.ok (.bindings (names.map (view s.store scope))), s)
  | .display value =>
    let (answer, s) := s.eval scope value
    (answer.map fun v => .text v.display, s)
  | .equals a b =>
    match s.evalAll scope [a, b] with
    | (.ok [v, w], s) => (.ok (.flag (v.equals w)), s)
    | (.ok _, s) => (.ok .none, s)
    | (.error e, s) => (.error e, s)
  | .call name arguments caller =>
    match s.store.lookup scope name with
    | .error e => (.error (.binding e), s)
    | .ok callee =>
      match s.evalAll scope arguments with
      | (.error e, s) => (.error e, s)
      | (.ok values, s) =>
        match s.scopeOr caller scope with
        | .error e => (.error e, s)
        | .ok caller =>
          let (answer, s) := s.apply callee values caller
          (answer.map fun (f, result) => .called f values result, s)

/-- Takes one step. -/
def step (s : Session) : Step → Except Failure Answer × Session
  | .newRoot =>
    let (scope, store) := s.store.addRoot
    { s with store }.answerHandle scope
  | .newGlobal sink =>
    let (sink, output) := s.output.add sink
    match { s with output }.addGlobal sink with
    | (.error e, s) => (.error (.binding e), s)
    | (.ok scope, s) => s.answerHandle scope
  | .onScope handle step =>
    match s.scope? handle with
    | some scope => s.scopeStep handle scope step
    | none => (.error (.noScope handle), s)
  | .onSink sink step =>
    let (answer, output) := s.output.step sink step
    (.ok (match answer with
      | .none => .none
      | .text text => .text text
      | .flag yes => .flag yes), { s with output })

end Session

end ScriptCore
