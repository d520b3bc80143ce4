import ScriptCore.Number.Exact

/-!
# Statistics of lists of numbers

Least, greatest, mean and middle of a list.  The middle goes by a total order of all numbers, in
which the negative zero comes before the positive one and what is no number is at one end or the
other, after its sign.  So it does not depend on how the list is arranged.
-/

namespace ScriptCore.Number

/-- The outermost of the numbers, which `pick` finds of two: `empty` if there are no numbers, and no
number if one of them is none. -/
def extreme (pick : Float → Float → Float) (empty : Float) (xs : List Float) : Float :=
  if xs.any Float.isNaN then notANumber else xs.foldl pick empty

/-- The less of two numbers. -/
def smaller (a b : Float) : Float := if b < a then b else a

/-- The greater of two numbers. -/
def larger (a b : Float) : Float := if a < b then b else a

/-- The least of the numbers: infinity if there are none, and no number if one of them is none. -/
def least (xs : List Float) : Float := extreme smaller infinity xs

/-- The greatest of the numbers: negative infinity if there are none, and no number if one of them
is none. -/
def greatest (xs : List Float) : Float := extreme larger (-infinity) xs

/-- The mean of the numbers.  The sum starts from the negative zero, which changes no summand. -/
def mean (xs : List Float) : Float := xs.foldl (· + ·) (-0.0) / ofNat xs.length

/-! ## The middle

What is no number has many bit patterns, with either sign, and the total order tells them apart.  So
it is an order of patterns. -/

/-- The place of a number in the total order, by its bits.  Taken as an integer with a sign they are
in order already from the positive zero on; below, all bits but that of the sign are turned, so that
greater sizes come first. -/
def orderKey (bits : UInt64) : Int64 :=
  let word := bits.toInt64
  word ^^^ ((word >>> 63).toUInt64 >>> 1).toInt64

/-- Bit patterns in the total order. -/
def ordered (words : List UInt64) : List UInt64 :=
  words.mergeSort fun a b => orderKey a ≤ orderKey b

/-- The bits of half a sum. -/
def halfSum (a b : UInt64) : UInt64 := ((Float.ofBits a + Float.ofBits b) / 2.0).toBits

/-- The middle one of the patterns in order, or what `half` makes of the middle two.  There is at
least one pattern. -/
def middle (half : UInt64 → UInt64 → UInt64) (words : List UInt64) : UInt64 :=
  let sorted := ordered words
  let nth (i : Nat) := sorted[i]?.getD 0
  let mid := sorted.length / 2
  if sorted.length % 2 = 0 then half (nth (mid - 1)) (nth mid) else nth mid

/-- The middle of numbers, or half the sum of the two in the middle. -/
def median (xs : List Float) : Float := .ofBits (middle halfSum (xs.map Float.toBits))

end ScriptCore.Number
