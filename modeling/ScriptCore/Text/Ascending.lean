/-!
# Searching ascending tables

The tables of characters are arrays in ascending order of code points.  One search serves all of
them: `rank` counts the keys that are not above a code point, halving the open range at each step.
-/

namespace ScriptCore.Text

/-- The number of the first place in `lo ≤ i ≤ hi` whose key is above `c`, for keys that ascend. -/
def rank (key : Nat → Nat) (c lo hi : Nat) : Nat :=
  if lo < hi then
    let middle := (lo + hi) / 2
    if key middle ≤ c then rank key c (middle + 1) hi else rank key c lo middle
  else lo
termination_by hi - lo
decreasing_by all_goals omega

/-- The last entry of an ascending table whose key is not above `c`. -/
def lastAtMost? (table : Array α) (key : α → Nat) (c : Nat) : Option α :=
  match rank (fun i => (table[i]?).elim 0 key) c 0 table.size with
  | 0 => none
  | place + 1 => table[place]?

end ScriptCore.Text
