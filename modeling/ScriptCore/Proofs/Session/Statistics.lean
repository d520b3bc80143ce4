import ScriptCore.Proofs.Number.Midpoint
import ScriptCore.Proofs.Session.Median

/-!
# Statistics in a session

`min` and `max` answer for any numbers, also for none at all and for what is no number.  What `median`
answers for finite numbers is between their answers, unless the sum of two numbers is too great on the
way.

* `Session.extremes_of_global`: the functions of a global scope obey the law of extremes;
* `Session.median_between_of_global`: when the middle is between the extremes.
-/

namespace ScriptCore.Session

open Number

variable {s : Session} {global : ScopeId}

/-- `min` answers `least`, of any numbers. -/
theorem IsGlobal.answers_min (h : s.IsGlobal global) (xs : List Float) :
    s.Answers global "min" (xs.map .number) (.ok (.number (least xs))) :=
  h.answers_variadic rfl xs

/-- `max` answers `greatest`, of any numbers. -/
theorem IsGlobal.answers_max (h : s.IsGlobal global) (xs : List Float) :
    s.Answers global "max" (xs.map .number) (.ok (.number (greatest xs))) :=
  h.answers_variadic rfl xs

/-- In a global scope `min` and `max` answer the least and the greatest of any numbers. -/
theorem extremes_of_global (h : s.IsGlobal global) : ∃ low high, Extremes low high ∧
    (∀ xs, s.Answers global "min" (xs.map .number) (.ok (.number (low xs)))) ∧
    ∀ xs, s.Answers global "max" (xs.map .number) (.ok (.number (high xs))) :=
  ⟨least, greatest, extremes, h.answers_min, h.answers_max⟩

/-- What is no number is not passed over, and of no numbers there are extremes too. -/
theorem extremes_of_global_none :
    let s := (start 0 0).run [.newGlobal .silent]
    s.IsGlobal ⟨0⟩ ∧ s.Answers ⟨0⟩ "max" [] (.ok (.number (-infinity))) ∧
    ∃ answer, answer.isNaN = true ∧
      s.Answers ⟨0⟩ "min" [.number 1.0, .number notANumber, .number 0.0] (.ok (.number answer)) := by
  intro s
  have hglobal : s.IsGlobal ⟨0⟩ := isGlobal_run (sound_start 0 0) .silent (by decide)
  obtain ⟨low, high, hlaw, hmin, hmax⟩ := extremes_of_global hglobal
  -- The law decides both answers, so no call is computed.
  have hempty := hmax []
  rw [hlaw.greatest.nil] at hempty
  have hnone : (low [1.0, notANumber, 0.0]).isNaN = true :=
    (hlaw.least.isNaN_iff _).2 ⟨notANumber, by simp, isNaN_notANumber⟩
  exact ⟨hglobal, hempty, _, hnone, hmin [1.0, notANumber, 0.0]⟩

/-- In a global scope `median` answers for finite numbers a finite one between the answers of `min`
and `max`, unless the sum of the two numbers in the middle is too great.  Then the answer is
infinite. -/
theorem median_between_of_global (h : s.IsGlobal global) {xs : List Float} (hne : xs ≠ [])
    (hxs : ∀ x ∈ xs, IsFinite x) : ∃ low middle high,
      s.Answers global "min" (xs.map .number) (.ok (.number low)) ∧
      s.Answers global "median" (xs.map .number) (.ok (.number middle)) ∧
      s.Answers global "max" (xs.map .number) (.ok (.number high)) ∧
      (IsFinite middle ∧ low ≤ middle ∧ middle ≤ high ↔ ¬Overflows xs) ∧
      (Overflows xs → ∃ n, Exact.ofFloat middle = .infinity n) :=
  ⟨least xs, median xs, greatest xs, h.answers_min xs, h.answers_median hne, h.answers_max xs,
    median_between_iff hne hxs⟩

/-- Nothing is summed up if there is one number in the middle. -/
theorem median_between_of_global_three :
    let s := (start 0 0).run [.newGlobal .silent]
    s.IsGlobal ⟨0⟩ ∧ ∃ low middle high,
      s.Answers ⟨0⟩ "min" [.number 2.0, .number 0.5, .number 1.0] (.ok (.number low)) ∧
      s.Answers ⟨0⟩ "median" [.number 2.0, .number 0.5, .number 1.0] (.ok (.number middle)) ∧
      s.Answers ⟨0⟩ "max" [.number 2.0, .number 0.5, .number 1.0] (.ok (.number high)) ∧
      IsFinite middle ∧ low ≤ middle ∧ middle ≤ high := by
  intro s
  have hglobal : s.IsGlobal ⟨0⟩ := isGlobal_run (sound_start 0 0) .silent (by decide)
  have hfinite : ∀ x ∈ [2.0, 0.5, 1.0], IsFinite x := by decide +kernel
  obtain ⟨low, middle, high, hmin, hmedian, hmax, hbetween, -⟩ :=
    median_between_of_global hglobal (List.cons_ne_nil _ _) hfinite
  -- Of three numbers one is in the middle, and nothing can overflow.
  have hnot : ¬Overflows [2.0, 0.5, 1.0] := fun h => by
    have heven := h.1
    simp at heven
  exact ⟨hglobal, low, middle, high, hmin, hmedian, hmax, hbetween.2 hnot⟩

/-- Of the greatest number twice, `median` answers infinity, which is above what `max` answers. -/
theorem median_exceeds_max :
    let s := (start 0 0).run [.newGlobal .silent]
    let greatestNumber := Float.ofBits 0x7FEFFFFFFFFFFFFF
    s.IsGlobal ⟨0⟩ ∧ IsFinite greatestNumber ∧
    s.Answers ⟨0⟩ "median" [.number greatestNumber, .number greatestNumber] (.ok (.number infinity)) ∧
    s.Answers ⟨0⟩ "max" [.number greatestNumber, .number greatestNumber]
      (.ok (.number greatestNumber)) ∧
    ¬IsFinite infinity ∧ ¬infinity ≤ greatestNumber := by
  intro s greatestNumber
  have hglobal : s.IsGlobal ⟨0⟩ := isGlobal_run (sound_start 0 0) .silent (by decide)
  -- The sum of the two is infinite before it is halved.
  have hmiddle : median [greatestNumber, greatestNumber] = infinity := by
    rw [median_twice]
    decide +kernel
  have hanswer := hglobal.answers_median (List.cons_ne_nil greatestNumber [greatestNumber])
  have hanswer' := hglobal.answers_max [greatestNumber, greatestNumber]
  have hgreatest : greatest [greatestNumber, greatestNumber] = greatestNumber := by decide +kernel
  rw [hmiddle] at hanswer
  rw [hgreatest] at hanswer'
  exact ⟨hglobal, by decide +kernel, hanswer, hanswer', by decide +kernel, by decide +kernel⟩

end ScriptCore.Session
