import ScriptCore.Text.Ascending
import ScriptCore.Text.Canonical.Classes
import ScriptCore.Text.Canonical.Duplicates
import ScriptCore.Text.Canonical.Pairs

/-!
# Canonical composition

Two texts that look the same may be written with different characters.  Normalisation form C picks
one of them in three steps: every character is taken apart as far as it goes, the marks that follow
a letter are put in the order of their classes, and what can be joined is joined again from left to
right.  Hangul syllables are taken apart and joined by arithmetic, all else by table.
-/

namespace ScriptCore.Text

/-- The combining class of a character; zero for one that starts a new group. -/
def combiningClass (c : Char) : Nat :=
  match lastAtMost? combiningRuns (·.first) c.toNat with
  | some run => if c.toNat ≤ run.last then run.value else 0
  | none => 0

/-! ## Hangul syllables

A syllable is a leading consonant, a vowel and at most one trailing consonant.  The syllables stand
in one block in the order of their parts. -/

namespace Hangul

/-- The first syllable. -/
def syllableBase : Nat := 0xAC00
/-- The first leading consonant. -/
def leadBase : Nat := 0x1100
/-- The first vowel. -/
def vowelBase : Nat := 0x1161
/-- The code point before the first trailing consonant. -/
def trailBase : Nat := 0x11A7
/-- The number of leading consonants. -/
def leadCount : Nat := 19
/-- The number of vowels. -/
def vowelCount : Nat := 21
/-- The number of trailing consonants, and one for none. -/
def trailCount : Nat := 28
/-- The number of syllables. -/
def syllableCount : Nat := leadCount * vowelCount * trailCount

/-- The parts of a syllable. -/
def parts? (c : Char) : Option (List Char) :=
  let n := c.toNat - syllableBase
  if syllableBase ≤ c.toNat ∧ n < syllableCount then
    let lead := Char.ofNat (leadBase + n / (vowelCount * trailCount))
    let vowel := Char.ofNat (vowelBase + n / trailCount % vowelCount)
    let trail := n % trailCount
    some (if trail = 0 then [lead, vowel] else [lead, vowel, Char.ofNat (trailBase + trail)])
  else none

/-- The syllable that two neighbours make: a leading consonant with a vowel, or a syllable without a
trailing consonant with one. -/
def join? (a b : Char) : Option Char :=
  let lead := a.toNat - leadBase
  let vowel := b.toNat - vowelBase
  let bare := a.toNat - syllableBase
  let trail := b.toNat - trailBase
  if leadBase ≤ a.toNat ∧ lead < leadCount ∧ vowelBase ≤ b.toNat ∧ vowel < vowelCount then
    some (Char.ofNat (syllableBase + (lead * vowelCount + vowel) * trailCount))
  else if syllableBase ≤ a.toNat ∧ bare < syllableCount ∧ bare % trailCount = 0 ∧
      trailBase < b.toNat ∧ trail < trailCount then
    some (Char.ofNat (a.toNat + trail))
  else none

end Hangul

/-! ## Taking apart -/

private def compatibilityBlock : Array Char :=
  (compatibilityIdeographs.flatMap String.toList).toArray

private def supplementBlock : Array Char :=
  (supplementIdeographs.flatMap String.toList).toArray

/-- The one character that a character stands for. -/
def duplicateOf? (c : Char) : Option Char :=
  if 0xF900 ≤ c.toNat ∧ c.toNat < 0xFB00 then
    compatibilityBlock[c.toNat - 0xF900]?.filter (· != c)
  else if 0x2F800 ≤ c.toNat then
    supplementBlock[c.toNat - 0x2F800]?.filter (· != c)
  else
    ((lastAtMost? duplicates (·.1) c.toNat).filter (·.1 == c.toNat)).map (Char.ofNat ·.2)

/-- The two characters that a character stands for. -/
def pairOf? (c : Char) : Option (Char × Char) :=
  let find (table : Array CanonicalPair) :=
    (lastAtMost? table (·.whole) c.toNat).filter (·.whole == c.toNat)
  ((find joiningPairs).orElse fun _ => find partingPairs).map fun p =>
    (Char.ofNat p.first, Char.ofNat p.second)

/-- Takes a character apart, at most `depth` times over. -/
def takeApartTo (depth : Nat) (c : Char) : List Char :=
  match depth with
  | 0 => [c]
  | depth + 1 =>
    match duplicateOf? c with
    | some d => takeApartTo depth d
    | none =>
      match pairOf? c with
      | some (a, b) => takeApartTo depth a ++ takeApartTo depth b
      | none => [c]

/-- Takes a character apart as far as it goes.  No character is nested more than four deep. -/
def takeApart (c : Char) : List Char :=
  (Hangul.parts? c).getD (takeApartTo 5 c)

/-! ## Order of marks -/

/-- Puts a character in front of a text in order: a mark goes behind the marks of lower class. -/
def insertMark (c : Char) : List Char → List Char
  | [] => [c]
  | d :: rest =>
    if combiningClass d ≠ 0 ∧ combiningClass d < combiningClass c then d :: insertMark c rest
    else c :: d :: rest

/-- Puts the marks of each group in the order of their classes and keeps equal ones as they are. -/
def orderMarks (cs : List Char) : List Char := cs.foldr insertMark []

/-! ## Joining -/

/-- The character that two neighbours are joined to. -/
def join? (a b : Char) : Option Char :=
  (Hangul.join? a b).orElse fun _ =>
    -- No character below the first mark is the second of a pair.
    if b.toNat < 0x300 then none
    else (joiningPairs.find? fun p => p.first == a.toNat && p.second == b.toNat).map
      (Char.ofNat ·.whole)

/-- What has been read while joining: the finished text, the character that later ones may still
join, and the marks after it that did not, each with the nearest first. -/
structure Joining where
  done : List Char
  starter : Option Char
  marks : List Char

namespace Joining

/-- All that has been read, nearest first. -/
def text (j : Joining) : List Char := j.marks ++ j.starter.toList ++ j.done

/-- Reads one more character.  It joins the starter unless a mark between them has the same class or
a higher one; otherwise it waits as a mark or becomes the new starter. -/
def push (j : Joining) (c : Char) : Joining :=
  let between := j.marks.head?.map combiningClass
  let own := combiningClass c
  let joined :=
    match j.starter with
    | some s => if between.all (· < own) then join? s c else none
    | none => none
  match joined with
  | some s => { j with starter := some s }
  | none =>
    if own = 0 then { done := j.text, starter := some c, marks := [] }
    else if j.starter.isSome then { j with marks := c :: j.marks }
    else { j with done := c :: j.done }

end Joining

/-- The text in normalisation form C. -/
def compose (cs : List Char) : List Char :=
  let ordered := orderMarks (cs.flatMap takeApart)
  (ordered.foldl Joining.push ⟨[], none, []⟩).text.reverse

end ScriptCore.Text
