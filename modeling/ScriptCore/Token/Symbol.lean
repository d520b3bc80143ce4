import ScriptCore.Token.Kind

/-!
# Symbols

Punctuation and operators have one or two characters.  The table tells for every first character
what it is alone, if anything, and which second characters make it another operator.  Of two
readings the longer one counts, so one character of lookahead decides.
-/

namespace ScriptCore

/-- A character that begins punctuation or operators. -/
structure Symbol where
  /-- The first character. -/
  first : Char
  /-- What the first character is alone. -/
  alone : Option Kind
  /-- The second characters, with what they make. -/
  pairs : List (Char × Kind)

/-- Every symbol. -/
def symbols : List Symbol :=
  [⟨'(', some .openParen, []⟩,
   ⟨')', some .closeParen, []⟩,
   ⟨'{', some .openBrace, []⟩,
   ⟨'}', some .closeBrace, []⟩,
   ⟨'[', some .openBracket, []⟩,
   ⟨']', some .closeBracket, []⟩,
   ⟨',', some .comma, []⟩,
   ⟨'.', some .dot, []⟩,
   ⟨':', some .colon, []⟩,
   ⟨';', some .semicolon, []⟩,
   ⟨'%', some .binaryOperator, []⟩,
   ⟨'+', some .binaryOperator, [('+', .increment), ('=', .plusEquals)]⟩,
   ⟨'-', some .binaryOperator, [('-', .decrement), ('=', .minusEquals)]⟩,
   ⟨'*', some .binaryOperator, [('=', .timesEquals)]⟩,
   ⟨'/', some .binaryOperator, [('=', .divideEquals)]⟩,
   ⟨'^', some .binaryOperator, [('=', .xorEqual)]⟩,
   ⟨'=', some .equals, [('=', .doubleEquals)]⟩,
   ⟨'!', some .not, [('=', .notEquals)]⟩,
   ⟨'<', some .lessThan, [('=', .lessThanEquals)]⟩,
   ⟨'>', some .greaterThan, [('=', .greaterThanEquals)]⟩,
   ⟨'&', none, [('&', .and)]⟩,
   ⟨'|', none, [('|', .or)]⟩]

/-- The symbol that begins with a character. -/
def symbol? (c : Char) : Option Symbol := symbols.find? (·.first == c)

end ScriptCore
