import ScriptCore.Text.Case.Sets
import ScriptCore.Text.Case.Table

/-!
# Upper and lower case

Case forms of characters and of whole texts.  A form may have several characters.  Upper case is
found character by character; lower case depends on the neighbours in one place, the capital sigma,
which has a form of its own at the end of a word.
-/

namespace ScriptCore.Text

/-- The form of a character according to a table of runs and one of longer forms; a character in
neither is its own form. -/
def caseForm (runs : Array CaseRun) (expansions : Array (Nat × List Nat)) (c : Char) : List Char :=
  match (lastAtMost? expansions (·.1) c.toNat).filter (·.1 == c.toNat) with
  | some (_, form) => form.map Char.ofNat
  | none =>
    match lastAtMost? runs (·.first) c.toNat with
    | some run =>
      let distance := c.toNat - run.first
      if c.toNat ≤ run.last ∧ distance % run.step = 0 then
        [Char.ofNat (run.image + distance)]
      else [c]
    | none => [c]

/-- The upper case form of a character. -/
def upperForm (c : Char) : List Char := caseForm upperRuns upperExpansions c

/-- The lower case form of a character by itself. -/
def lowerForm (c : Char) : List Char := caseForm lowerRuns lowerExpansions c

/-- The text with each character in upper case. -/
def toUpper (cs : List Char) : List Char := cs.flatMap upperForm

/-- Whether the nearest character that counts for casing is a cased one. -/
def meetsCased (cs : List Char) : Bool :=
  (cs.dropWhile caseIgnorable.contains).head?.any cased.contains

/-- Whether a sigma ends a word: a cased character comes before it and none after.  `before` holds
the characters before it, nearest first. -/
def endsWord (before after : List Char) : Bool := meetsCased before && !meetsCased after

/-- Goes on with lower casing: `before` holds the characters already read and `done` their forms,
both with the nearest first. -/
def lowerFrom (before done : List Char) : List Char → List Char
  | [] => done.reverse
  -- The one character whose form depends on its neighbours.
  | 'Σ' :: rest =>
    lowerFrom ('Σ' :: before) ((if endsWord before rest then 'ς' else 'σ') :: done) rest
  | c :: rest => lowerFrom (c :: before) ((lowerForm c).reverse ++ done) rest

/-- The text in lower case. -/
def toLower (cs : List Char) : List Char := lowerFrom [] [] cs

end ScriptCore.Text
