import ScriptCore.Cell
import ScriptCore.Native.Builtin
import ScriptCore.Number.Function
import ScriptCore.Number.Layout
import ScriptCore.Number.Statistics
import ScriptCore.Proofs.Native.Argument
import ScriptCore.Proofs.Native.Catalogue
import ScriptCore.Proofs.Native.Repetition
import ScriptCore.Proofs.Number.Arithmetic
import ScriptCore.Proofs.Number.Canonical
import ScriptCore.Proofs.Number.Comparison
import ScriptCore.Proofs.Number.Divisor
import ScriptCore.Proofs.Number.Extreme
import ScriptCore.Proofs.Number.Integer
import ScriptCore.Proofs.Number.Median
import ScriptCore.Proofs.Number.Midpoint
import ScriptCore.Proofs.Number.Order
import ScriptCore.Proofs.Number.Prime
import ScriptCore.Proofs.Number.Rounding
import ScriptCore.Proofs.Number.Truncation
import ScriptCore.Proofs.Output.Journal
import ScriptCore.Proofs.Scope.Chain
import ScriptCore.Proofs.Scope.Change
import ScriptCore.Proofs.Scope.Commutation
import ScriptCore.Proofs.Scope.Effect
import ScriptCore.Proofs.Scope.History
import ScriptCore.Proofs.Scope.Hold
import ScriptCore.Proofs.Scope.Owner
import ScriptCore.Proofs.Scope.Release
import ScriptCore.Proofs.Scope.Search
import ScriptCore.Proofs.Scope.Shape
import ScriptCore.Proofs.Scope.Store
import ScriptCore.Proofs.Session.Answer
import ScriptCore.Proofs.Session.Arithmetic
import ScriptCore.Proofs.Session.Block
import ScriptCore.Proofs.Session.Call
import ScriptCore.Proofs.Session.Course
import ScriptCore.Proofs.Session.Encapsulation
import ScriptCore.Proofs.Session.Failure
import ScriptCore.Proofs.Session.Identity
import ScriptCore.Proofs.Session.Indexing
import ScriptCore.Proofs.Session.Installation
import ScriptCore.Proofs.Session.Median
import ScriptCore.Proofs.Session.Naming
import ScriptCore.Proofs.Session.Operation
import ScriptCore.Proofs.Session.Passing
import ScriptCore.Proofs.Session.Permanence
import ScriptCore.Proofs.Session.Printing
import ScriptCore.Proofs.Session.Record
import ScriptCore.Proofs.Session.Release
import ScriptCore.Proofs.Session.Repetition
import ScriptCore.Proofs.Session.Reversal
import ScriptCore.Proofs.Session.Statistics
import ScriptCore.Proofs.Session.Substitution
import ScriptCore.Proofs.Session.Write
import ScriptCore.Proofs.Text.Bytes
import ScriptCore.Proofs.Text.Replacement
import ScriptCore.Proofs.Text.Reversal
import ScriptCore.Proofs.Text.Search
import ScriptCore.Proofs.Text.WhiteSpace
import ScriptCore.Proofs.Token.Concatenation
import ScriptCore.Proofs.Token.Cursor
import ScriptCore.Proofs.Token.Division
import ScriptCore.Proofs.Token.Extension
import ScriptCore.Proofs.Token.Fault
import ScriptCore.Proofs.Token.Grammar
import ScriptCore.Proofs.Token.Lexeme
import ScriptCore.Proofs.Token.Scan
import ScriptCore.Proofs.Token.Seek
import ScriptCore.Proofs.Token.Spacing
import ScriptCore.Proofs.Token.Tiling
import ScriptCore.Proofs.Token.Value
import ScriptCore.Scope.Store
import ScriptCore.Session.Step
import ScriptCore.Text.Bytes
import ScriptCore.Text.Canonical
import ScriptCore.Text.Case
import ScriptCore.Text.Quoted
import ScriptCore.Text.Search
import ScriptCore.Token.Cursor
import ScriptCore.Token.Lexer
import ScriptCore.Proofs.Token.Progress
import ScriptCore.Proofs.Native.Integer
import ScriptCore.Proofs.Session.Integer
import ScriptCore.Proofs.Scope.Forest
import ScriptCore.Proofs.Session.Machine
