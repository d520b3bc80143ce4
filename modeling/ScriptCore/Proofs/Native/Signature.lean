import Mathlib.Data.List.Basic
import ScriptCore.Native.Parameter

/-!
# Signatures

A signature says what arguments a function takes: one for each of some parameters, or any number of
numbers.  `Signature.read` counts the arguments and then reads them from the first one on, so it
refuses them for their number before it refuses one of them, and a later one only if all before it
are taken.

No function is run with a signature.  Each body looks at its arguments by itself, with
`Arity.expect`, `Parameter.argument` and `Argument.numbers`; this module has what these come to if
they are called in the order of the places:

* `Signature.read_one`, `Signature.read_two`, `Signature.read_three`: arguments that are counted and
  then looked up at their places are those that a signature reads;
* `Argument.numbers_eq`: numbers that are looked up at all places are read one after the other.
-/

namespace ScriptCore

/-- The arguments of a function. -/
inductive Signature where
  /-- One argument for each parameter. -/
  | fixed (parameters : List Parameter)
  /-- Any number of numbers, but at least `least`. -/
  | numbers (least : Nat)
deriving DecidableEq

namespace Signature

/-- One read argument for each parameter. -/
abbrev Tuple : List Parameter → Type
  | [] => Unit
  | p :: ps => p.Carrier × Tuple ps

/-- What the arguments are read as. -/
abbrev Carrier : Signature → Type
  | fixed ps => Tuple ps
  | numbers _ => List Float

/-- The arity of a function with this signature. -/
def arity : Signature → Arity
  | fixed ps => .exact ps.length
  | numbers least => .atLeast least

/-- Reads one argument for each parameter, from the place `index` on. -/
def readTuple (function : String) (index : Nat) :
    (ps : List Parameter) → List Value → Except NativeError (Tuple ps)
  | [], _ => .ok ()
  | p :: ps, value :: values => do
    let x ← p.read function index value
    let xs ← readTuple function (index + 1) ps values
    return (x, xs)
  -- Not reached from `read`, which has counted the arguments.
  | p :: ps, [] => .error (.argumentCount function (.exact (index + (p :: ps).length)) index)

/-- Reads numbers from the place `index` on. -/
def readNumbers (function : String) (index : Nat) : List Value → Except NativeError (List Float)
  | [] => .ok []
  | value :: values => do
    let x ← Parameter.number.read function index value
    let xs ← readNumbers function (index + 1) values
    return x :: xs

/-- Checks the number of arguments and reads them in turn. -/
def read (function : String) (signature : Signature) (values : List Value) :
    Except NativeError signature.Carrier :=
  if signature.arity.accepts values.length then
    match signature with
    | fixed ps => readTuple function 0 ps values
    | numbers _ => readNumbers function 0 values
  else .error (.argumentCount function signature.arity values.length)

end Signature

variable {function : String} {values : List Value} {p q r : Parameter} {α : Type}

/-! ## Arguments that are looked up

The result of a body is `rest`, a function of what was read.  The cases are those of the list of
arguments, up to the length that the signature has: for a list of another length both sides are the
error of `Arity.expect`. -/

namespace Signature

/-- A body that takes nothing only counts. -/
theorem read_zero (rest : Except NativeError α) :
    (do
      Arity.expect (.exact 0) function values
      rest) = (fixed []).read function values >>= fun _ => rest := by
  cases values <;> rfl

/-- One argument that is counted and looked up is the one that a signature reads. -/
theorem read_one (rest : p.Carrier → Except NativeError α) :
    (do
      Arity.expect (.exact 1) function values
      let a ← p.argument function values 0
      rest a) = (fixed [p]).read function values >>= fun read => rest read.1 := by
  match values with
  | [] => rfl
  | [u] =>
    show p.read function 0 u >>= rest =
      (p.read function 0 u >>= fun a => .ok (a, ())) >>= fun read => rest read.1
    cases p.read function 0 u <;> rfl
  | u :: v :: others => rfl

/-- `read_two`: the second argument is looked up after the first one was taken. -/
theorem read_two (rest : p.Carrier → q.Carrier → Except NativeError α) :
    (do
      Arity.expect (.exact 2) function values
      let a ← p.argument function values 0
      let b ← q.argument function values 1
      rest a b) =
      (fixed [p, q]).read function values >>= fun read => rest read.1 read.2.1 := by
  match values with
  | [] => rfl
  | [u] => rfl
  | [u, v] =>
    -- With two arguments both sides read the first one and then the second.
    show (p.read function 0 u >>= fun a => q.read function 1 v >>= fun b => rest a b) =
      (p.read function 0 u >>= fun a => (q.read function 1 v >>= fun b => .ok (b, ())) >>=
        fun others => .ok (a, others)) >>= fun read => rest read.1 read.2.1
    cases p.read function 0 u
    case error => rfl
    cases q.read function 1 v <;> rfl
  | u :: v :: w :: others => rfl

/-- `read_three`: each argument is looked up after the ones before it were taken. -/
theorem read_three (rest : p.Carrier → q.Carrier → r.Carrier → Except NativeError α) :
    (do
      Arity.expect (.exact 3) function values
      let a ← p.argument function values 0
      let b ← q.argument function values 1
      let c ← r.argument function values 2
      rest a b c) =
      (fixed [p, q, r]).read function values >>= fun read =>
        rest read.1 read.2.1 read.2.2.1 := by
  match values with
  | [] => rfl
  | [u] => rfl
  | [u, v] => rfl
  | [u, v, w] =>
    -- With three arguments both sides read them from the first to the last.
    show (p.read function 0 u >>= fun a => q.read function 1 v >>= fun b =>
        r.read function 2 w >>= fun c => rest a b c) =
      (p.read function 0 u >>= fun a => (q.read function 1 v >>= fun b =>
        (r.read function 2 w >>= fun c => .ok (c, ())) >>= fun others => .ok (b, others)) >>=
        fun others => .ok (a, others)) >>= fun read => rest read.1 read.2.1 read.2.2.1
    cases p.read function 0 u
    case error => rfl
    cases q.read function 1 v
    case error => rfl
    cases r.read function 2 w <;> rfl
  | u :: v :: w :: x :: others => rfl

end Signature

namespace Argument

/-- `number` looks an argument up as `Parameter.number` does. -/
theorem number_eq (function : String) (values : List Value) (index : Nat) :
    number function values index = Parameter.number.argument function values index := by
  rw [number, Parameter.argument]
  cases values[index]? with
  | none => rfl
  | some value => cases value <;> rfl

/-- Behind the values `before`, the numbers at the places of `rest` are those that `readNumbers`
reads. -/
theorem mapM_number_range' (function : String) (before rest : List Value) :
    (List.range' before.length rest.length).mapM (number function (before ++ rest)) =
      Signature.readNumbers function before.length rest := by
  -- Induction on the values that are left.  The one at the first place goes over to those before.
  induction rest generalizing before with
  | nil => rfl
  | cons value rest ih =>
    have hnext := ih (before ++ [value])
    rw [List.length_append, List.append_assoc, List.singleton_append] at hnext
    have hfirst : number function (before ++ value :: rest) before.length =
        Parameter.number.read function before.length value := by
      rw [number_eq, Parameter.argument, List.getElem?_append_right (Nat.le_refl _), Nat.sub_self]
      rfl
    rw [List.length_cons, List.range'_succ, List.mapM_cons, hfirst, Signature.readNumbers]
    exact congrArg _ (funext fun x => congrArg (· >>= _) hnext)

/-- `numbers` looks at the places one by one, and so reads what `readNumbers` reads. -/
theorem numbers_eq (function : String) (values : List Value) :
    numbers function values = Signature.readNumbers function 0 values := by
  rw [numbers, List.range_eq_range']
  exact mapM_number_range' function [] values

/-- If all values are numbers, `numbers` gives these, of whatever type numbers are. -/
theorem numbers_map_number {ν : Type} (function : String) (xs : List ν) :
    numbers function (xs.map .number) = .ok xs := by
  -- The places behind `before` are those of `rest`, which the induction takes from the front.
  have hplaces (before rest : List ν) : (List.range' before.length rest.length).mapM
      (number function ((before ++ rest).map .number)) = .ok rest := by
    induction rest generalizing before with
    | nil => rfl
    | cons x rest ih =>
      have hnext := ih (before ++ [x])
      rw [List.length_append, List.append_assoc, List.singleton_append] at hnext
      have hfirst : number function ((before ++ x :: rest).map .number) before.length = .ok x := by
        rw [number, List.getElem?_map, List.getElem?_append_right (Nat.le_refl _), Nat.sub_self]
        rfl
      rw [List.length_cons, List.range'_succ, List.mapM_cons, hfirst]
      exact congrArg (· >>= fun others => .ok (x :: others)) hnext
  rw [numbers, List.length_map, List.range_eq_range']
  exact hplaces [] xs

end Argument

end ScriptCore
