import ScriptCore.Proofs.Native.Body

/-!
# How functions of the catalogue fail

A function that computes fails on its arguments in three ways: there are too many or too few of
them, one is refused, or its body refuses them together.  Only two bodies refuse anything: there is
no integer between bounds in the wrong order, and a text is not repeated if the result would be too
large.

* `Builtin.Fails`: the errors of a function for given arguments, told without running it;
* `Builtin.body_eq_error_iff`: the body of a function of the catalogue fails with these errors and no
  others.
-/

namespace ScriptCore

open Number

/-- The function that an error is about; errors of bindings are about none. -/
def NativeError.function? : NativeError → Option String
  | argumentCount function _ _ | argumentType function _ _ _ | domain function _ => some function
  | binding _ => none

/-- An error with which a parameter `Refuses` an argument is about the function. -/
theorem Parameter.Refuses.function?_eq {function : String} {index : Nat} {p : Parameter}
    {value : Value} {error : NativeError} (h : p.Refuses function index value error) :
    error.function? = some function := by
  cases h <;> rfl

/-- The parameters of a signature; numbers in any quantity have one parameter for all of them. -/
def Signature.parameters : Signature → List Parameter
  | fixed parameters => parameters
  | numbers _ => [.number]

namespace Builtin

variable {builtin : Builtin} {function : String} {signature : Signature} {arguments : List Value}
  {error : NativeError} {fault : DomainFault}

/-- The signature that the name of a function promises.  Functions that print take anything. -/
def signature? (builtin : Builtin) : Option Signature :=
  match builtin.name with
  | "print" | "println" => none
  | "time" | "random" => some (.fixed [])
  | "pow" | "atan2" => some (.fixed [.number, .number])
  | "min" | "max" | "hypot" => some (.numbers 0)
  | "mean" | "median" => some (.numbers 1)
  | "gcd" | "randint" => some (.fixed [.integer, .integer])
  | "factorial" | "fibonacci" => some (.fixed [.count])
  | "strLen" | "strToUppercase" | "strToLowerCase" | "strReverse" | "strTrim" | "strTrimStart"
  | "strTrimEnd" | "strNormalize" => some (.fixed [.string])
  | "strIncludes" | "strEndsWith" | "strStartsWith" => some (.fixed [.string, .string])
  | "strReplace" | "strReplaceAll" => some (.fixed [.string, .string, .string])
  | "strCharAt" => some (.fixed [.string, .number])
  | "strRepeat" => some (.fixed [.string, .count])
  | _ => some (.fixed [.number])

/-- The row of the catalogue that has a name. -/
def find? (name : String) : Option Builtin :=
  catalogue.find? fun builtin => builtin.name == name

/-- What `find?` finds is in the catalogue.  For a given name it is found by evaluation, which is how
a row is shown to be in the catalogue. -/
theorem mem_of_find? (name : String) (h : find? name = some builtin) : builtin ∈ catalogue :=
  List.mem_of_find?_eq_some h

/-- A function refuses its arguments together, though it takes each of them. -/
inductive OutOfDomain (function : String) : List Value → DomainFault → Prop where
  /-- An integer is wanted that is not below `low` and not above `high`, which is below `low`. -/
  | emptyRange {x y : Float} {low high : Int} (hfunction : function = "randint")
    (hx : IsExactInteger x low) (hy : IsExactInteger y high) (horder : high < low) :
    OutOfDomain function [.number x, .number y] (.emptyRange low high)
  /-- A text is to be repeated, and there would be more than `2 ^ 30` bytes. -/
  | resultTooLarge {text : String} {x : Float} {n : Nat} (hfunction : function = "strRepeat")
    (hx : IsExactInteger x n) (hsize : 2 ^ 30 < text.utf8ByteSize * n) :
    OutOfDomain function [.string text, .number x] .resultTooLarge

/-- A function of the catalogue fails for arguments with an error. -/
inductive Fails (builtin : Builtin) (arguments : List Value) : NativeError → Prop where
  /-- The number of arguments is wrong, whatever they are. -/
  | count {signature : Signature} (hsignature : builtin.signature? = some signature)
    (hcount : ¬signature.arity.accepts arguments.length) :
    Fails builtin arguments
      (.argumentCount builtin.name signature.arity arguments.length)
  /-- The number is right, and the first argument that is refused is refused with the error. -/
  | argument {signature : Signature} {error : NativeError}
    (hsignature : builtin.signature? = some signature)
    (hcount : signature.arity.accepts arguments.length)
    (hfirst : Signature.FirstRefusal builtin.name 0 (signature.pairs arguments) error) :
    Fails builtin arguments error
  /-- The arguments are refused together. -/
  | domain {fault : DomainFault} (hdomain : OutOfDomain builtin.name arguments fault) :
    Fails builtin arguments (.domain builtin.name fault)

/-- Each error of `Fails` names the function. -/
theorem Fails.function?_eq (h : builtin.Fails arguments error) :
    error.function? = some builtin.name := by
  cases h with
  | count => rfl
  | argument hsignature hcount hfirst =>
    obtain ⟨i, p, value, -, hrefuses, -⟩ := hfirst
    exact hrefuses.function?_eq
  | domain => rfl

/-! ## Rows of the catalogue -/

/-- What a function reads has no answer exactly if it is out of the domain. -/
def Restricted (function : String) (signature : Signature)
    (answer : signature.Carrier → Except DomainFault Value) : Prop :=
  ∀ arguments fault,
    (∃ read, signature.read function arguments = .ok read ∧ answer read = .error fault) ↔
      OutOfDomain function arguments fault

/-- A row of the catalogue does what its name promises.  If it computes, its body reads the
signature that `signature?` has for the name of the row, its errors are about that name, and there
is no answer exactly for what is `OutOfDomain`. -/
def Specified (builtin : Builtin) : Prop :=
  match builtin.behaviour with
  | .output _ => builtin.signature? = none
  | .compute body => ∃ signature, builtin.signature? = some signature ∧ ∀ ambient, ∃ answer,
      Reads (body ambient) builtin.name signature answer ∧
        Restricted builtin.name signature answer

/-- A function that answers for all that it reads is `Specified`, unless it is one of the two with a
domain. -/
theorem specified_of_total {name : String} {body : Ambient → List Value → Except NativeError Value}
    {answer : Ambient → signature.Carrier → Value}
    (hsignature : signature? ⟨name, .compute body⟩ = some signature)
    (hname : name ≠ "randint" ∧ name ≠ "strRepeat")
    (hreads : ∀ ambient, Reads (body ambient) name signature fun read => .ok (answer ambient read)) :
    Specified ⟨name, .compute body⟩ := by
  refine ⟨signature, hsignature, fun ambient => ⟨_, hreads ambient, fun arguments fault => ?_⟩⟩
  refine iff_of_false ?_ ?_
  · rintro ⟨read, -, hanswer⟩
    cases hanswer
  · rintro (⟨hfunction, -⟩ | ⟨hfunction, -⟩)
    · exact hname.1 hfunction
    · exact hname.2 hfunction

/-- `between` has no answer exactly if the bounds are in the wrong order. -/
theorem between_eq_error_iff {draw : UInt64} {low high : Int} :
    between draw low high = .error fault ↔ high < low ∧ fault = .emptyRange low high := by
  rw [between]
  split <;> simp_all [eq_comm]

/-- `randint` has no answer exactly for an empty range. -/
theorem restricted_between (draw : UInt64) : Restricted "randint" (.fixed [.integer, .integer])
    fun read => between draw read.1 read.2.1 := by
  -- What is drawn makes no difference: it is used only if the range is not empty.
  intro arguments fault
  constructor
  · rintro ⟨⟨low, high, ⟨⟩⟩, hread, hanswer⟩
    obtain ⟨horder, rfl⟩ := between_eq_error_iff.1 hanswer
    obtain ⟨_, _, rfl, ⟨x, rfl, hx⟩, y, rfl, hy⟩ := Signature.read_two_eq_ok_iff.1 hread
    exact .emptyRange rfl hx hy horder
  · rintro (⟨-, hx, hy, horder⟩ | ⟨hfunction, -⟩)
    · exact ⟨(_, _, ()), Signature.read_two_eq_ok_iff.2 ⟨_, _, rfl, ⟨_, rfl, hx⟩, _, rfl, hy⟩,
        between_eq_error_iff.2 ⟨horder, rfl⟩⟩
    · exact absurd hfunction (by decide)

/-- `repeated` has no answer exactly if the copies would have more than `2 ^ 30` bytes. -/
theorem repeated_eq_error_iff {text : String} {n : Nat} :
    repeated text n = .error fault ↔
      2 ^ 30 < text.utf8ByteSize * n ∧ fault = .resultTooLarge := by
  rw [repeated]
  split
  · -- The empty text has no bytes, however often it is repeated.
    rename_i hempty
    simp [String.isEmpty_iff.1 hempty]
  · split
    · rename_i hle
      simp [not_lt.2 hle, show (2 : Nat) ^ 30 = repeatLimit from rfl]
    · rename_i hlt
      simp [not_le.1 hlt, show (2 : Nat) ^ 30 = repeatLimit from rfl, eq_comm]

/-- `strRepeat` has no answer exactly for a result that would be too large. -/
theorem restricted_repeated : Restricted "strRepeat" (.fixed [.string, .count])
    fun read => repeated read.1 read.2.1 := by
  intro arguments fault
  constructor
  · rintro ⟨⟨text, n, ⟨⟩⟩, hread, hanswer⟩
    obtain ⟨hsize, rfl⟩ := repeated_eq_error_iff.1 hanswer
    obtain ⟨_, _, rfl, rfl, x, rfl, hx⟩ := Signature.read_two_eq_ok_iff.1 hread
    exact .resultTooLarge rfl hx hsize
  · rintro (⟨hfunction, -⟩ | ⟨-, hx, hsize⟩)
    · exact absurd hfunction (by decide)
    · exact ⟨(_, _, ()), Signature.read_two_eq_ok_iff.2 ⟨_, _, rfl, rfl, _, rfl, hx⟩,
        repeated_eq_error_iff.2 ⟨hsize, rfl⟩⟩

/-- The row `randint` is `Specified`, with a domain. -/
theorem specified_randint :
    Specified ⟨"randint", .compute fun ambient => randomInteger ambient.draw⟩ :=
  ⟨_, rfl, fun ambient => ⟨_, reads_randomInteger ambient.draw, restricted_between ambient.draw⟩⟩

/-- The row `strRepeat` is `Specified`, with a domain. -/
theorem specified_strRepeat : Specified (of "strRepeat" textRepeat) :=
  ⟨_, rfl, fun _ => ⟨_, reads_textRepeat, restricted_repeated⟩⟩

/-- All rows of the catalogue are `Specified`: the names in the errors of the bodies, and the
arities and parameters that these look for, are those that the names of the rows promise. -/
theorem specified_of_mem (hbuiltin : builtin ∈ catalogue) : builtin.Specified := by
  -- Each row of the catalogue is one goal, and the shape of its body tells the lemma.
  revert builtin
  simp only [catalogue, inputOutput, mathematics, text, List.forall_mem_append,
    List.forall_mem_cons, List.not_mem_nil, false_imp_iff, implies_true, and_true]
  refine ⟨⟨⟨rfl, rfl, ?_⟩, ?_⟩, ?_⟩
  · exact specified_of_total rfl (by decide) fun ambient => reads_time ambient.clock
  · repeat' apply And.intro
    all_goals first
      | exact specified_of_total rfl (by decide) fun _ => reads_unary _
      | exact specified_of_total rfl (by decide) fun _ => reads_binary _
      | exact specified_of_total rfl (by decide) fun _ => reads_variadic _
      | exact specified_of_total rfl (by decide) fun _ => reads_statistic _
      | exact specified_of_total rfl (by decide) fun _ => reads_counting _
      | exact specified_of_total rfl (by decide) fun ambient => reads_random ambient.draw
      | exact specified_of_total rfl (by decide) fun _ => reads_commonDivisor
      | exact specified_of_total rfl (by decide) fun _ => reads_primality
      | exact specified_of_total rfl (by decide) fun _ => reads_integrality
      | exact specified_randint
  · repeat' apply And.intro
    all_goals first
      | exact specified_of_total rfl (by decide) fun _ => reads_textMap _
      | exact specified_of_total rfl (by decide) fun _ => reads_textTest _
      | exact specified_of_total rfl (by decide) fun _ => reads_textReplace _
      | exact specified_of_total rfl (by decide) fun _ => reads_textLength
      | exact specified_of_total rfl (by decide) fun _ => reads_textCharacter
      | exact specified_strRepeat

/-- The body of a function of the catalogue fails with the errors of `Fails`, and with no others. -/
theorem body_eq_error_iff {body : Ambient → List Value → Except NativeError Value}
    {ambient : Ambient} (hbuiltin : builtin ∈ catalogue)
    (hbehaviour : builtin.behaviour = .compute body) :
    body ambient arguments = .error error ↔ builtin.Fails arguments error := by
  have hspecified := specified_of_mem hbuiltin
  rw [Specified, hbehaviour] at hspecified
  obtain ⟨signature, hsignature, hbodies⟩ := hspecified
  obtain ⟨answer, hreads, hrestricted⟩ := hbodies ambient
  -- The three ways to fail are the two of reading the arguments, and that of having no answer.
  rw [hreads.eq_error_iff, Signature.read_eq_error_iff]
  constructor
  · rintro ((⟨hcount, rfl⟩ | ⟨hcount, hfirst⟩) | ⟨read, fault, hread, hanswer, rfl⟩)
    · exact .count hsignature hcount
    · exact .argument hsignature hcount hfirst
    · exact .domain ((hrestricted arguments fault).1 ⟨read, hread, hanswer⟩)
  · rintro (⟨hother, hcount⟩ | ⟨hother, hcount, hfirst⟩ | hdomain)
    -- The signature of the row is the one that the error was told with.
    · cases hsignature.symm.trans hother
      exact .inl (.inl ⟨hcount, rfl⟩)
    · cases hsignature.symm.trans hother
      exact .inl (.inr ⟨hcount, hfirst⟩)
    · obtain ⟨read, hread, hanswer⟩ := (hrestricted arguments _).2 hdomain
      exact .inr ⟨read, _, hread, hanswer, rfl⟩

/-! ## Signatures -/

/-- Which functions want integers, which want counts, and which do not compute. -/
structure Signed (builtin : Builtin) : Prop where
  computes : builtin.signature? = none ↔ builtin.name ∈ ["print", "println"]
  integer : ∀ signature ∈ builtin.signature?,
    .integer ∈ signature.parameters ↔ builtin.name ∈ ["gcd", "randint"]
  count : ∀ signature ∈ builtin.signature?,
    .count ∈ signature.parameters ↔ builtin.name ∈ ["factorial", "fibonacci", "strRepeat"]

/-- Each row of the catalogue is `Signed` as the three lists of names say. -/
theorem signed_of_mem (hbuiltin : builtin ∈ catalogue) : builtin.Signed := by
  -- Bodies cannot be compared, so the table is of names and signatures alone.
  have hrow : (builtin.name, builtin.signature?) ∈ catalogue.map fun b => (b.name, b.signature?) :=
    List.mem_map.2 ⟨builtin, hbuiltin, rfl⟩
  have htable : ∀ row ∈ catalogue.map fun b => (b.name, b.signature?),
      (row.2 = none ↔ row.1 ∈ ["print", "println"]) ∧ ∀ signature ∈ row.2,
        (.integer ∈ signature.parameters ↔ row.1 ∈ ["gcd", "randint"]) ∧
        (.count ∈ signature.parameters ↔ row.1 ∈ ["factorial", "fibonacci", "strRepeat"]) := by
    decide +kernel
  obtain ⟨hcomputes, hparameters⟩ := htable _ hrow
  exact ⟨hcomputes, fun signature h => (hparameters signature h).1,
    fun signature h => (hparameters signature h).2⟩

end Builtin

end ScriptCore
