import ScriptCore.Session.Basic

/-!
# Expressions

Values that a host passes on may be given by what they are computed from: a variable, a call, or a
host function that is made on the spot.  Evaluation works from a scope, which a part of an
expression may change for itself; it goes from left to right and stops at the first failure, and
what has happened until then stays.
-/

namespace ScriptCore

/-- What a value is computed from.  A `scope` is a handle to work from instead. -/
inductive Expression where
  | value (v : Value)
  /-- A host function, made anew each time. -/
  | host (f : HostFunction)
  | variable (scope : Option Nat) (name : String)
  | call (scope : Option Nat) (name : String) (arguments : List Expression)

/-- Why an expression has no value, or a step fails. -/
inductive Failure where
  | binding (e : BindingError)
  | native (e : NativeError)
  /-- What was to be called is a value of another type. -/
  | notNative (typeName : String)
  /-- The handle stands for no scope. -/
  | noScope (handle : Nat)
deriving DecidableEq

namespace Session

/-- The scope of a handle, or `default` if there is no handle. -/
def scopeOr (s : Session) (handle : Option Nat) (default : ScopeId) : Except Failure ScopeId :=
  match handle with
  | none => .ok default
  | some handle =>
    match s.scope? handle with
    | some scope => .ok scope
    | none => .error (.noScope handle)

/-- Calls a value, which has to be a native function. -/
def apply (s : Session) (callee : Value) (arguments : List Value) (scope : ScopeId) :
    Except Failure (Native × Value) × Session :=
  match callee with
  | .native f =>
    let (answer, s) := s.invoke f arguments scope
    ((answer.map fun value => (f, value)).mapError .native, s)
  | other => (.error (.notNative other.typeName), s)

mutual

/-- Evaluates an expression from a scope. -/
def eval (scope : ScopeId) : Expression → Session → Except Failure Value × Session
  | .value v, s => (.ok v, s)
  | .host f, s =>
    let (f, s) := s.register f.name (.host f.act)
    (.ok (.native f), s)
  | .variable handle name, s =>
    match s.scopeOr handle scope with
    | .ok scope => ((s.store.lookup scope name).mapError .binding, s)
    | .error e => (.error e, s)
  | .call handle name arguments, s =>
    match s.scopeOr handle scope with
    | .error e => (.error e, s)
    | .ok scope =>
      match s.store.lookup scope name with
      | .error e => (.error (.binding e), s)
      | .ok callee =>
        match evalAll scope arguments s with
        | (.error e, s) => (.error e, s)
        | (.ok values, s) =>
          let (answer, s) := s.apply callee values scope
          (answer.map (·.2), s)

/-- Evaluates expressions from left to right. -/
def evalAll (scope : ScopeId) : List Expression → Session → Except Failure (List Value) × Session
  | [], s => (.ok [], s)
  | e :: es, s =>
    match eval scope e s with
    | (.error e, s) => (.error e, s)
    | (.ok value, s) =>
      match evalAll scope es s with
      | (.error e, s) => (.error e, s)
      | (.ok values, s) => (.ok (value :: values), s)

end

end Session

end ScriptCore
