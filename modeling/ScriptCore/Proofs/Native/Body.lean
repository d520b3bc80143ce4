import ScriptCore.Proofs.Native.Argument
import ScriptCore.Proofs.Number.Prime

/-!
# What bodies read

A body counts its arguments and looks them up as it goes along.  Here this is told for each shape of
body, and for each body of its own, by a signature and by the answer for what the signature reads.
The name in the errors is the one that the body has for itself; that it is also the one under which
the catalogue has the body is left to the rows of the catalogue.

* `Reads`: a body reads a signature, and answers for what it has read;
* `reads_unary` and the others: the signatures of the shapes;
* `reads_primality`: looking at an argument twice comes to reading a number.
-/

namespace ScriptCore.Builtin

variable {function : String} {signature : Signature} {body : List Value → Except NativeError Value}
  {answer : signature.Carrier → Except DomainFault Value} {arguments : List Value} {value : Value}

/-- `body` reads its arguments as `signature` says, with errors about `function`, and answers for
what was read. -/
def Reads (body : List Value → Except NativeError Value) (function : String) (signature : Signature)
    (answer : signature.Carrier → Except DomainFault Value) : Prop :=
  ∀ arguments, body arguments =
    signature.read function arguments >>= fun read => (answer read).mapError (.domain function)

/-- `Reads` gives the value of a call whose arguments are read: the answer for them. -/
theorem Reads.eq_ok (h : Reads body function signature answer) {read : signature.Carrier}
    (hread : signature.read function arguments = .ok read) (hvalue : answer read = .ok value) :
    body arguments = .ok value := by
  rw [h, hread]
  show (answer read).mapError _ = .ok value
  rw [hvalue]
  rfl

/-- A body with `Reads` fails while the arguments are read, or because there is no answer for them.
-/
theorem Reads.eq_error_iff (h : Reads body function signature answer) {error : NativeError} :
    body arguments = .error error ↔ signature.read function arguments = .error error ∨
      ∃ read fault, signature.read function arguments = .ok read ∧
        answer read = .error fault ∧ error = .domain function fault := by
  rw [h]
  cases signature.read function arguments with
  | error other => simp [bind, Except.bind]
  | ok read =>
    cases hanswer : answer read <;>
      simp [bind, Except.bind, Except.mapError, hanswer, eq_comm]

/-! ## Shapes

The arguments are looked up in the order of their places, so each body is one that
`Signature.read_one`, `Signature.read_two` or `Signature.read_three` is about. -/

/-- `unary` looks up one number. -/
theorem reads_unary (f : Float → Float) : Reads (unary function f) function (.fixed [.number])
    fun read => .ok (.number (f read.1)) := by
  intro arguments
  simp only [unary, Argument.number_eq]
  exact Signature.read_one _

/-- `binary` looks up two numbers. -/
theorem reads_binary (f : Float → Float → Float) : Reads (binary function f) function
    (.fixed [.number, .number]) fun read => .ok (.number (f read.1 read.2.1)) := by
  intro arguments
  simp only [binary, Argument.number_eq]
  exact Signature.read_two _

/-- `counting` looks up one count. -/
theorem reads_counting (f : Nat → Float) : Reads (counting function f) function (.fixed [.count])
    fun read => .ok (.number (f read.1)) :=
  fun _ => Signature.read_one _

/-- `variadic` does not count its arguments, so any number of them is taken. -/
theorem reads_variadic (f : List Float → Float) : Reads (variadic function f) function (.numbers 0)
    fun xs => .ok (.number (f xs)) := by
  intro arguments
  have hcount : (Signature.numbers 0).arity.accepts arguments.length = true :=
    decide_eq_true (Nat.zero_le arguments.length)
  rw [variadic, Argument.numbers_eq, Signature.read, if_pos hcount]
  rfl

/-- `statistic` counts its arguments before it looks them up, and takes one at least. -/
theorem reads_statistic (f : List Float → Float) : Reads (statistic function f) function
    (.numbers 1) fun xs => .ok (.number (f xs)) := by
  intro arguments
  rw [statistic, variadic, Argument.numbers_eq, Arity.expect, Signature.read, Signature.arity]
  split <;> rfl

/-- `textMap` looks up one text. -/
theorem reads_textMap (f : List Char → List Char) : Reads (textMap function f) function
    (.fixed [.string]) fun read => .ok (.string (String.ofList (f read.1.toList))) :=
  fun _ => Signature.read_one _

/-- `textTest` looks up two texts. -/
theorem reads_textTest (f : List Char → List Char → Bool) : Reads (textTest function f) function
    (.fixed [.string, .string])
    fun read => .ok (.boolean (f read.1.toList read.2.1.toList)) :=
  fun _ => Signature.read_two _

/-- `textReplace` looks up three texts. -/
theorem reads_textReplace (f : List Char → List Char → List Char → List Char) :
    Reads (textReplace function f) function (.fixed [.string, .string, .string]) fun read =>
      .ok (.string (String.ofList (f read.1.toList read.2.1.toList read.2.2.1.toList))) :=
  fun _ => Signature.read_three _

/-- For numbers only, `variadic` answers what the function makes of them.  Numbers may be of any
type here. -/
theorem variadic_map_number {ν : Type} (f : List ν → ν) (xs : List ν) :
    variadic function f (xs.map .number) = .ok (.number (f xs)) := by
  rw [variadic, Argument.numbers_map_number]
  rfl

/-- For numbers only, and one at least, `statistic` answers what the function makes of them. -/
theorem statistic_map_number {ν : Type} (f : List ν → ν) {xs : List ν} (hne : xs ≠ []) :
    statistic function f (xs.map .number) = .ok (.number (f xs)) := by
  have hcount : (Arity.atLeast 1).accepts (xs.map Value.number).length = true := by
    rw [List.length_map]
    exact decide_eq_true (List.length_pos_iff.2 hne)
  rw [statistic, variadic_map_number, Arity.expect, if_pos hcount]
  rfl

/-! ## Bodies of their own -/

/-- `time` looks up nothing. -/
theorem reads_time (clock : Nat) :
    Reads (time clock) "time" (.fixed []) fun _ => .ok (.number (Number.ofNat clock)) :=
  fun _ => Signature.read_zero _

/-- `random` looks up nothing. -/
theorem reads_random (draw : UInt64) :
    Reads (random draw) "random" (.fixed []) fun _ => .ok (.number (fraction draw)) :=
  fun _ => Signature.read_zero _

/-- `randomInteger` looks up its two bounds before it compares them. -/
theorem reads_randomInteger (draw : UInt64) : Reads (randomInteger draw) "randint"
    (.fixed [.integer, .integer]) fun read => between draw read.1 read.2.1 :=
  fun _ => Signature.read_two _

/-- `commonDivisor` looks up two integers and goes on with their sizes. -/
theorem reads_commonDivisor : Reads commonDivisor "gcd" (.fixed [.integer, .integer]) fun read =>
    .ok (.number (Number.ofNat (Number.commonDivisor read.1.natAbs read.2.1.natAbs))) :=
  fun _ => Signature.read_two _

/-- Whether the argument of `primality` is refused does not depend on whether it is an integer: all
that the first look at it refuses is looked at again, as a number.  So the body takes a number, and
tells whether it is a prime. -/
theorem reads_primality : Reads primality "isPrime" (.fixed [.number]) fun read =>
    .ok (.boolean (isPrime read.1)) := by
  intro arguments
  rcases arguments with _ | ⟨u, _ | ⟨v, others⟩⟩
  -- Without an argument the body ends at the count.
  · rfl
  · cases u with
    -- Only a number can pass the first look.
    | number x =>
      have hlook : Parameter.integer.argument "isPrime" [.number x] 0 =
          (Parameter.readInteger 0 x).mapError (.domain "isPrime") := rfl
      show primality [.number x] = .ok (.boolean (isPrime x))
      rw [primality, hlook, Parameter.readInteger, isPrime]
      -- What is no exact integer is none of the errors that count.
      cases Parameter.exactInteger? x with
      | none => rfl
      | some n => cases n <;> rfl
    -- Of another type, the argument is refused at the second look, as it would be by `.number`.
    | null | boolean _ | string _ | native _ => rfl
  · rfl

/-- `integrality` looks up one number. -/
theorem reads_integrality : Reads integrality "isInt" (.fixed [.number]) fun read =>
    .ok (.boolean (Number.isIntegral read.1)) := by
  intro arguments
  simp only [integrality, Argument.number_eq]
  exact Signature.read_one _

/-- `textLength` looks up one text. -/
theorem reads_textLength : Reads textLength "strLen" (.fixed [.string]) fun read =>
    .ok (.number (Number.ofNat read.1.length)) :=
  fun _ => Signature.read_one _

/-- `textCharacter` takes any number as the place. -/
theorem reads_textCharacter : Reads textCharacter "strCharAt" (.fixed [.string, .number])
    fun read => .ok (.string (characterAt read.1 read.2.1)) := by
  intro arguments
  simp only [textCharacter, Argument.number_eq]
  exact Signature.read_two _

/-- `textRepeat` looks up a text and a count before it looks at the size. -/
theorem reads_textRepeat : Reads textRepeat "strRepeat" (.fixed [.string, .count]) fun read =>
    repeated read.1 read.2.1 :=
  fun _ => Signature.read_two _

end ScriptCore.Builtin
