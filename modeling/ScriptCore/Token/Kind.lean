/-!
# Kinds of tokens

The closed set of token kinds, with the name of each and the label that diagnostics use.
-/

namespace ScriptCore

/-- What a token is. -/
inductive Kind where
  | number
  | identifier
  | string
  | letKeyword
  | constKeyword
  | fnKeyword
  | ifKeyword
  | elseKeyword
  | openParen
  | closeParen
  | openBrace
  | closeBrace
  | openBracket
  | closeBracket
  | comma
  | dot
  | colon
  | semicolon
  /-- One of `+ - * / % ^`; the text of the token tells which. -/
  | binaryOperator
  | equals
  | doubleEquals
  | notEquals
  | not
  | lessThan
  | greaterThan
  | lessThanEquals
  | greaterThanEquals
  | and
  | or
  | plusEquals
  | minusEquals
  | timesEquals
  | divideEquals
  | xorEqual
  | increment
  | decrement
  /-- The end of the source. -/
  | eof
deriving DecidableEq, Inhabited

namespace Kind

/-- Every kind. -/
def all : List Kind :=
  [number, identifier, string, letKeyword, constKeyword, fnKeyword, ifKeyword, elseKeyword,
   openParen, closeParen, openBrace, closeBrace, openBracket, closeBracket, comma, dot, colon,
   semicolon, binaryOperator, equals, doubleEquals, notEquals, not, lessThan, greaterThan,
   lessThanEquals, greaterThanEquals, and, or, plusEquals, minusEquals, timesEquals, divideEquals,
   xorEqual, increment, decrement, eof]

/-- No kind is missing in `all`. -/
theorem mem_all (k : Kind) : k ∈ all := by cases k <;> decide

/-- The name of a kind. -/
def name : Kind → String
  | number => "Number"
  | identifier => "Identifier"
  | string => "String"
  | letKeyword => "Let"
  | constKeyword => "Const"
  | fnKeyword => "Fn"
  | ifKeyword => "If"
  | elseKeyword => "Else"
  | openParen => "OpenParen"
  | closeParen => "CloseParen"
  | openBrace => "OpenBrace"
  | closeBrace => "CloseBrace"
  | openBracket => "OpenBracket"
  | closeBracket => "CloseBracket"
  | comma => "Comma"
  | dot => "Dot"
  | colon => "Colon"
  | semicolon => "Semicolon"
  | binaryOperator => "BinaryOperator"
  | equals => "Equals"
  | doubleEquals => "DoubleEquals"
  | notEquals => "NotEquals"
  | not => "Not"
  | lessThan => "LessThan"
  | greaterThan => "GreaterThan"
  | lessThanEquals => "LessThanEquals"
  | greaterThanEquals => "GreaterThanEquals"
  | and => "And"
  | or => "Or"
  | plusEquals => "PlusEquals"
  | minusEquals => "MinusEquals"
  | timesEquals => "TimesEquals"
  | divideEquals => "DivideEquals"
  | xorEqual => "XorEqual"
  | increment => "Increment"
  | decrement => "Decrement"
  | eof => "Eof"

/-- The kind of a name. -/
def ofName? (s : String) : Option Kind := all.find? (·.name == s)

/-- `ofName?` takes back what `name` does. -/
theorem ofName?_eq_some_iff {s : String} {k : Kind} : ofName? s = some k ↔ k.name = s := by
  constructor
  · intro h
    simpa using List.find?_some h
  · rintro rfl
    have hnames : ∀ k ∈ all, ofName? k.name = some k := by decide
    exact hnames k k.mem_all

/-- The label of a kind in diagnostics: the text of the token where that is fixed. -/
def label : Kind → String
  | number => "number"
  | identifier => "identifier"
  | string => "string"
  | letKeyword => "let"
  | constKeyword => "const"
  | fnKeyword => "fn"
  | ifKeyword => "if"
  | elseKeyword => "else"
  | openParen => "("
  | closeParen => ")"
  | openBrace => "\x7b"
  | closeBrace => "\x7d"
  | openBracket => "["
  | closeBracket => "]"
  | comma => ","
  | dot => "."
  | colon => ":"
  | semicolon => ";"
  | binaryOperator => "binary operator"
  | equals => "="
  | doubleEquals => "=="
  | notEquals => "!="
  | not => "!"
  | lessThan => "<"
  | greaterThan => ">"
  | lessThanEquals => "<="
  | greaterThanEquals => ">="
  | and => "&&"
  | or => "||"
  | plusEquals => "+="
  | minusEquals => "-="
  | timesEquals => "*="
  | divideEquals => "/="
  | xorEqual => "^="
  | increment => "++"
  | decrement => "--"
  | eof => "end of file"

/-- Whether the kind is a reserved word. -/
def isKeyword : Kind → Bool
  | letKeyword | constKeyword | fnKeyword | ifKeyword | elseKeyword => true
  | _ => false

/-- Whether the kind is an operator that combines arithmetic with assignment. -/
def isCompoundAssignment : Kind → Bool
  | plusEquals | minusEquals | timesEquals | divideEquals | xorEqual => true
  | _ => false

end Kind

/-- The reserved words, in the order in which `keyword?` compares with them. -/
def keywords : List String := ["let", "const", "fn", "if", "else"]

/-- The kind of a reserved word.  Case matters.  A text with fewer than two bytes or more than five
is not compared with any. -/
def keyword? (word : String) : Option Kind :=
  if 2 ≤ word.utf8ByteSize ∧ word.utf8ByteSize ≤ 5 then
    match word with
    | "let" => some .letKeyword
    | "const" => some .constKeyword
    | "fn" => some .fnKeyword
    | "if" => some .ifKeyword
    | "else" => some .elseKeyword
    | _ => none
  else none

/-! ## The tables agree

The reserved words stand in `keywords`, in `keyword?`, in `Kind.label` and, by their kinds, in
`Kind.isKeyword`.  None of these is made from another one. -/

/-- A word that `keyword?` finds has a kind that `Kind.isKeyword` knows, and `Kind.label` gives the
word back; and it finds all of these. -/
theorem keyword?_eq_some_iff {word : String} {k : Kind} :
    keyword? word = some k ↔ k.isKeyword ∧ k.label = word := by
  constructor
  · intro h
    -- One case for each row of `keyword?`, and one each for the other words and the other lengths.
    unfold keyword? at h
    split at h
    · split at h <;> cases h <;> exact ⟨rfl, rfl⟩
    · cases h
  · rintro ⟨hk, rfl⟩
    -- The length of a label of a reserved word is within the guard.
    have hlabels : ∀ k ∈ Kind.all, k.isKeyword → keyword? k.label = some k := by decide
    exact hlabels k k.mem_all hk

/-- What `keyword?` finds is what `keywords` lists. -/
theorem mem_keywords_iff {word : String} : word ∈ keywords ↔ ∃ k, keyword? word = some k := by
  constructor
  · intro hword
    have hfound : ∀ word ∈ keywords, (keyword? word).isSome := by decide
    exact Option.isSome_iff_exists.1 (hfound word hword)
  · rintro ⟨k, hk⟩
    have hlisted : ∀ k ∈ Kind.all, k.isKeyword → k.label ∈ keywords := by decide
    obtain ⟨hkeyword, rfl⟩ := keyword?_eq_some_iff.1 hk
    exact hlisted k k.mem_all hkeyword

/-- Whatever its length, a text that is none of the `keywords` is not found by `keyword?`. -/
theorem keyword?_eq_none_iff {word : String} : keyword? word = none ↔ word ∉ keywords := by
  rw [mem_keywords_iff, Option.eq_none_iff_forall_ne_some, not_exists]

end ScriptCore
