import ScriptCore.Text.Ascending

/-!
# Sets of characters

A set of characters is kept as the ascending list of the code points at which membership changes:
the first bound is the first member, the second one is the first code point after it that is no
member, and so on.
-/

namespace ScriptCore.Text

/-- A set of characters, given by the code points at which membership changes. -/
structure CodePointSet where
  bounds : Array Nat

/-- A character is a member if an odd number of bounds is not above it. -/
def CodePointSet.contains (s : CodePointSet) (c : Char) : Bool :=
  rank (s.bounds.getD · 0) c.toNat 0 s.bounds.size % 2 == 1

end ScriptCore.Text
