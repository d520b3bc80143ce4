import ScriptCore.Native.Error
import ScriptCore.Scope.Store

/-!
# Host functions

A host may add functions of its own.  Such a function works on the scope it is called from: it looks
up, declares and assigns there, goes on with each answer, and ends with a result.  A `HostAction` is
that course of action as data; `run` carries it out.
-/

namespace ScriptCore

/-- What a host function does in the scope it is called from. -/
inductive HostAction where
  | done (result : Except NativeError Value)
  | lookup (name : String) (next : Except BindingError Value → HostAction)
  | declare (name : String) (value : Value) (mutability : Mutability)
      (next : Except BindingError Value → HostAction)
  | assign (name : String) (value : Value) (next : Except BindingError Value → HostAction)

/-- A host function. -/
structure HostFunction where
  name : String
  act : List Value → HostAction

namespace HostAction

/-- Carries an action out in a scope. -/
def run (scope : ScopeId) : HostAction → Store → Except NativeError Value × Store
  | done result, store => (result, store)
  | lookup name next, store => run scope (next (store.lookup scope name)) store
  | declare name value mutability next, store =>
    let (answer, store) := store.declare scope name value mutability
    run scope (next answer) store
  | assign name value next, store =>
    let (answer, store) := store.assign scope name value
    run scope (next answer) store

/-- Ends with what a binding operation answered. -/
def finish (answer : Except BindingError Value) : HostAction :=
  done (answer.mapError .binding)

/-- Ends if a binding operation failed, and goes on with its value otherwise. -/
def proceed (answer : Except BindingError Value) (next : Value → HostAction) : HostAction :=
  match answer with
  | .ok value => next value
  | .error e => done (.error (.binding e))

end HostAction

namespace HostFunction

/-- Adds one to `n`; what is no number counts as zero. -/
def bump : HostFunction where
  name := "bump"
  act _ :=
    .lookup "n" fun answer => .proceed answer fun value =>
    .assign "n" (.number (value.number?.getD 0.0 + 1.0)) fun answer => .proceed answer fun _ =>
    .done (.ok .null)

/-- Assigns the number of arguments to `seen`. -/
def argc : HostFunction where
  name := "argc"
  act arguments := .assign "seen" (.number (Number.ofNat arguments.length)) .finish

/-- Declares the name in the first argument with the value in the second one, as a constant if the
third one is true. -/
def define : HostFunction where
  name := "define"
  act
    | .string name :: rest =>
      let value := rest[0]?.getD .null
      let isConstant := decide (rest[1]? = some (.boolean true))
      .declare name value (.ofConstant isConstant) .finish
    | _ => .done (.error (.domain "define" (.other "needs a name")))

/-- Fails with its first argument as the message. -/
def fail : HostFunction where
  name := "fail"
  act arguments :=
    .done (.error (.domain "fail" (.other ((arguments.head?.map Value.display).getD ""))))

/-- The host functions by name. -/
def ofName? (name : String) : Option HostFunction :=
  [bump, argc, define, fail].find? (·.name == name)

end HostFunction

end ScriptCore
