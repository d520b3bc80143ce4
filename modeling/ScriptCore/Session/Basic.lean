import ScriptCore.Native.Builtin
import ScriptCore.Native.Host
import ScriptCore.Output

/-!
# Sessions

A session is all the state of running scripts: the scopes and the handles by which the host knows
them, the native functions that were made, the output, the clock and the source of chance.

Native functions are made with `register`, which numbers them; `invoke` finds one by its number.
`installCatalogue` binds the catalogue in a scope and `addGlobal` makes a scope that has it and the
literals.
-/

namespace ScriptCore

/-- What a native function does. -/
inductive NativeBody where
  /-- A function of the catalogue that computes. -/
  | builtin (body : Ambient → List Value → Except NativeError Value)
  /-- A function that prints to a sink. -/
  | printer (sink : SinkId) (newline : Bool)
  | host (act : List Value → HostAction)

/-- The state of running scripts. -/
structure Session where
  store : Store
  /-- The native functions by number. -/
  natives : Array NativeBody
  /-- The scopes that handles stand for; a handle that was dropped stands for none. -/
  handles : Array (Option ScopeId)
  output : Output
  /-- Milliseconds since the beginning of 1970. -/
  clock : Nat
  /-- The state of the source of chance. -/
  chance : UInt64

namespace Session

/-- A session in which nothing has happened. -/
def start (clock : Nat) (seed : UInt64) : Session :=
  { store := .empty, natives := #[], handles := #[], output := .empty, clock, chance := seed }

/-! ## Native functions -/

/-- Makes a native function. -/
def register (s : Session) (name : String) (body : NativeBody) : Native × Session :=
  (⟨s.natives.size, name⟩, { s with natives := s.natives.push body })

/-- The next state of the source of chance. -/
def nextChance (state : UInt64) : UInt64 := state * 6364136223846793005 + 1442695040888963407

/-- What is drawn in a state of the source of chance. -/
def draw (state : UInt64) : UInt64 :=
  let mixed := (state ^^^ (state >>> 31)) * 0x9E3779B97F4A7C15
  mixed ^^^ (mixed >>> 29)

/-- Calls a native function from a scope. -/
def invoke (s : Session) (f : Native) (arguments : List Value) (scope : ScopeId) :
    Except NativeError Value × Session :=
  match s.natives[f.id]? with
  | some (.builtin body) =>
    (body ⟨s.clock, draw s.chance⟩ arguments, { s with chance := nextChance s.chance })
  | some (.printer sink newline) =>
    let text := Output.line (Value.displayAll arguments) newline
    (.ok .null, { s with output := s.output.write sink text })
  | some (.host act) =>
    let (result, store) := (act arguments).run scope s.store
    (result, { s with store })
  | none => (.error (.domain f.name (.other "is a function of another session")), s)

/-! ## Bindings -/

/-- Declares a name in a scope. -/
def declare (s : Session) (scope : ScopeId) (name : String) (value : Value)
    (mutability : Mutability) : Except BindingError Value × Session :=
  let (answer, store) := s.store.declare scope name value mutability
  (answer, { s with store })

/-- Assigns to a name from a scope. -/
def assign (s : Session) (scope : ScopeId) (name : String) (value : Value) :
    Except BindingError Value × Session :=
  let (answer, store) := s.store.assign scope name value
  (answer, { s with store })

/-- Declares a list of constants in turn, as long as that succeeds. -/
def declareConstants (scope : ScopeId) :
    List (String × Value) → Session → Except BindingError Unit × Session
  | [], s => (.ok (), s)
  | (name, value) :: rest, s =>
    match s.declare scope name value .constant with
    | (.ok _, s) => declareConstants scope rest s
    | (.error e, s) => (.error e, s)

/-- The body of a function of the catalogue, printing to a sink. -/
def bodyOf (sink : SinkId) : Behaviour → NativeBody
  | .output newline => .printer sink newline
  | .compute body => .builtin body

/-- Makes functions of the catalogue and declares them as constants, in turn, as long as that
succeeds. -/
def installAll (scope : ScopeId) (sink : SinkId) :
    List Builtin → Session → Except BindingError Unit × Session
  | [], s => (.ok (), s)
  | builtin :: rest, s =>
    let (f, s) := s.register builtin.name (bodyOf sink builtin.behaviour)
    match s.declare scope builtin.name (.native f) .constant with
    | (.ok _, s) => installAll scope sink rest s
    | (.error e, s) => (.error e, s)

/-- Declares the catalogue in a scope, group by group, and gives the number of its functions. -/
def installCatalogue (s : Session) (scope : ScopeId) (sink : SinkId) :
    Except BindingError Nat × Session :=
  match installAll scope sink Builtin.inputOutput s with
  | (.error e, s) => (.error e, s)
  | (.ok _, s) =>
    match installAll scope sink Builtin.mathematics s with
    | (.error e, s) => (.error e, s)
    | (.ok _, s) =>
      let (answer, s) := installAll scope sink Builtin.text s
      (answer.map fun _ => Builtin.inputOutputNames.length + Builtin.mathematics.length +
        Builtin.text.length, s)

/-- Makes an outermost scope with the literals and the catalogue, printing to a sink. -/
def addGlobal (s : Session) (sink : SinkId) : Except BindingError ScopeId × Session :=
  let (scope, store) := s.store.addRoot
  match declareConstants scope literals { s with store } with
  | (.error e, s) => (.error e, s)
  | (.ok _, s) =>
    let (answer, s) := s.installCatalogue scope sink
    (answer.map fun _ => scope, s)

/-! ## Handles -/

/-- The scope that a handle stands for. -/
def scope? (s : Session) (handle : Nat) : Option ScopeId := s.handles[handle]?.join

/-- Gives a new handle to a scope that is held for it. -/
def addHandle (s : Session) (scope : ScopeId) : Nat × Session :=
  (s.handles.size, { s with handles := s.handles.push (some scope) })

/-- Holds a scope and gives a new handle to it. -/
def shareHandle (s : Session) (scope : ScopeId) : Nat × Session :=
  { s with store := s.store.retain scope }.addHandle scope

/-- Drops a handle and gives up its hold. -/
def dropHandle (s : Session) (handle : Nat) : Session :=
  match s.scope? handle with
  | some scope =>
    { s with
      store := s.store.release scope
      handles := s.handles.modify handle fun _ => none }
  | none => s

/-- The handles that stand for a scope, in ascending order. -/
def handlesOf (s : Session) (scope : ScopeId) : List Nat :=
  (List.range s.handles.size).filter fun handle => s.scope? handle = some scope

end Session

end ScriptCore
