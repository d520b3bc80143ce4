/-!
# Output

Printed text goes to a sink: one that keeps it, one that drops it, or the console.  Sinks have
numbers, and writing to one changes no other; the console is shared by the sinks that write to it.
-/

namespace ScriptCore

/-- Where printed text goes. -/
inductive Sink where
  /-- Keeps what is written. -/
  | buffer (text : String)
  /-- Drops what is written. -/
  | silent
  /-- Writes to the console. -/
  | console
deriving DecidableEq, Inhabited

namespace Sink

/-- A sink that keeps what is written. -/
def newBuffer : Sink := buffer ""

/-- The text that a sink has kept. -/
def kept : Sink → String
  | buffer text => text
  | _ => ""

/-- Whether what is written can be read back. -/
def captures : Sink → Bool
  | buffer _ => true
  | _ => false

/-- The sink after a text is written to it. -/
def write (text : String) : Sink → Sink
  | buffer before => buffer (before ++ text)
  | sink => sink

/-- The sink with nothing kept. -/
def cleared : Sink → Sink
  | buffer _ => buffer ""
  | sink => sink

end Sink

/-- The number of a sink. -/
structure SinkId where
  index : Nat
deriving DecidableEq

/-- Sinks by number, and what the console has received. -/
structure Output where
  sinks : Array Sink
  console : String
deriving DecidableEq

namespace Output

/-- No sinks, and nothing on the console. -/
def empty : Output := ⟨#[], ""⟩

/-- Adds a sink. -/
def add (o : Output) (sink : Sink) : SinkId × Output :=
  (⟨o.sinks.size⟩, { o with sinks := o.sinks.push sink })

/-- The sink of a number; there is no text in one that does not exist. -/
def sink (o : Output) (id : SinkId) : Sink := o.sinks[id.index]?.getD .silent

/-- Writes a text to a sink. -/
def write (o : Output) (id : SinkId) (text : String) : Output :=
  { sinks := o.sinks.modify id.index (Sink.write text)
    console := if o.sink id = .console then o.console ++ text else o.console }

/-- A text with the end of its line, if it has one. -/
def line (text : String) (newline : Bool) : String := if newline then text ++ "\n" else text

end Output

/-- What can be done with a sink. -/
inductive SinkStep where
  | print (text : String)
  | println (text : String)
  /-- Reads what is kept. -/
  | output
  /-- Reads what is kept, and keeps it no longer. -/
  | take
  | clear
  | captures
  /-- Reads what the console has received since it was last read. -/
  | console

/-- What a step answers. -/
inductive SinkAnswer where
  | none
  | text (text : String)
  | flag (yes : Bool)
deriving DecidableEq

/-- Takes one step with a sink. -/
def Output.step (o : Output) (id : SinkId) : SinkStep → SinkAnswer × Output
  | .print text => (.none, o.write id (line text false))
  | .println text => (.none, o.write id (line text true))
  | .output => (.text (o.sink id).kept, o)
  | .take => (.text (o.sink id).kept, { o with sinks := o.sinks.modify id.index Sink.cleared })
  | .clear => (.none, { o with sinks := o.sinks.modify id.index Sink.cleared })
  | .captures => (.flag (o.sink id).captures, o)
  | .console => (.text o.console, { o with console := "" })

end ScriptCore
