import ScriptCore.Number.Statistics
import ScriptCore.Proofs.Number.Comparison

/-!
# The extremes of a list of numbers

The least and the greatest of a list of numbers are found by going through it with a function that
picks one of two.  Which of two zeros is picked does not matter, nor what is picked if there is
something that is no number: lists with such numbers are told apart before.

* `Same`: numbers that are the same when they are compared;
* `Extreme`: the law of one end of the numbers, `Extremes` that of both;
* `Picks.extreme`, `Picks.extremes`: the law holds for whatever picks one of two numbers;
* `extremes`: it holds for the least and the greatest number.
-/

namespace ScriptCore.Number

variable {x y : Float} {xs ys : List Float} {k : Int}

/-! ## The law -/

/-- Numbers are equal when they are compared, or none of them is a number. -/
def Same (x y : Float) : Prop := (x == y) = true ∨ x.isNaN = true ∧ y.isNaN = true

/-- A function takes the first of numbers in an order, in which `last` is the last. -/
structure Extreme (notAfter : Float → Float → Prop) (last : Float) (first : List Float → Float) :
    Prop where
  /-- The answer is no number if one of the arguments is none, wherever it stands. -/
  isNaN_iff : ∀ xs, (first xs).isNaN = true ↔ ∃ x ∈ xs, x.isNaN = true
  /-- Of no numbers, the last one is the first. -/
  nil : first [] = last
  /-- Otherwise the answer is one of the numbers. -/
  mem : ∀ xs, xs ≠ [] → (∀ x ∈ xs, x.isNaN = false) → ∃ x ∈ xs, (first xs == x) = true
  /-- The answer is not after any of the numbers. -/
  notAfter : ∀ xs, (∀ x ∈ xs, x.isNaN = false) → ∀ x ∈ xs, notAfter (first xs) x
  /-- It does not depend on how the numbers are arranged or how often they occur. -/
  of_mem_iff : ∀ xs ys, (∀ x, x ∈ xs ↔ x ∈ ys) → Same (first xs) (first ys)
  /-- The numbers can be taken in two parts. -/
  append : ∀ xs ys, Same (first (xs ++ ys)) (first [first xs, first ys])

/-- Two functions take the least and the greatest of numbers. -/
structure Extremes (low high : List Float → Float) : Prop where
  least : Extreme (· ≤ ·) infinity low
  greatest : Extreme (· ≥ ·) (-infinity) high
  /-- Changing the signs turns one into the other. -/
  dual : ∀ xs, Same (high xs) (-(low (xs.map fun x => -x)))

/-! ## Picking one of two -/

/-- A function picks the one of two numbers that has the lesser key. -/
structure Picks (key : Float → Int) (pick : Float → Float → Float) : Prop where
  isNaN : ∀ a b, a.isNaN = false → b.isNaN = false → (pick a b).isNaN = false
  key_eq : ∀ a b, a.isNaN = false → b.isNaN = false → key (pick a b) = min (key a) (key b)

/-- An order is told by keys. -/
structure Keyed (key : Float → Int) (notAfter : Float → Float → Prop) (last : Float) : Prop where
  isNaN_last : last.isNaN = false
  key_le_last : ∀ x, x.isNaN = false → key x ≤ key last
  key_le_iff : ∀ x y, x.isNaN = false → y.isNaN = false → (key x ≤ key y ↔ notAfter x y)
  key_eq_iff : ∀ x y, x.isNaN = false → y.isNaN = false → (key x = key y ↔ (x == y) = true)

variable {key : Float → Int} {pick : Float → Float → Float} {notAfter : Float → Float → Prop}
  {last : Float}

/-- The answer for what is no number is no number itself. -/
theorem isNaN_notANumber : notANumber.isNaN = true := by decide +kernel

/-- Either there is something that is no number, or there are numbers only. -/
theorem exists_isNaN_or (xs : List Float) :
    (∃ x ∈ xs, x.isNaN = true) ∨ ∀ x ∈ xs, x.isNaN = false := by
  by_cases hnone : ∃ x ∈ xs, x.isNaN = true
  · exact .inl hnone
  · exact .inr fun x hx => Bool.eq_false_iff.2 fun hx' => hnone ⟨x, hx, hx'⟩

/-- `extreme` is no number if there is something that is none. -/
theorem extreme_of_isNaN (h : ∃ x ∈ xs, x.isNaN = true) : extreme pick last xs = notANumber :=
  if_pos (List.any_eq_true.2 h)

/-- `extreme` of numbers picks one after the other. -/
theorem extreme_of_numbers (h : ∀ x ∈ xs, x.isNaN = false) :
    extreme pick last xs = xs.foldl pick last := by
  refine if_neg fun hany => ?_
  obtain ⟨x, hx, hnone⟩ := List.any_eq_true.1 hany
  exact absurd hnone (Bool.eq_false_iff.1 (h x hx))

namespace Picks

/-- What `pick` picks of numbers is a number. -/
theorem isNaN_foldl (h : Picks key pick) (hlast : last.isNaN = false)
    (hxs : ∀ x ∈ xs, x.isNaN = false) : (xs.foldl pick last).isNaN = false := by
  induction xs generalizing last with
  | nil => exact hlast
  | cons x xs ih =>
    rw [List.forall_mem_cons] at hxs
    exact ih (h.isNaN last x hlast hxs.1) hxs.2

/-- The key of what `pick` picks is the greatest one that is below all keys. -/
theorem le_key_foldl_iff (h : Picks key pick) (hlast : last.isNaN = false)
    (hxs : ∀ x ∈ xs, x.isNaN = false) :
    k ≤ key (xs.foldl pick last) ↔ k ≤ key last ∧ ∀ x ∈ xs, k ≤ key x := by
  induction xs generalizing last with
  | nil => simp
  | cons x xs ih =>
    rw [List.forall_mem_cons] at hxs
    rw [List.foldl_cons, ih (h.isNaN last x hlast hxs.1) hxs.2, h.key_eq last x hlast hxs.1,
      Int.le_min, List.forall_mem_cons, and_assoc]

/-- What `pick` picks has the key of the last number or of one of the list. -/
theorem exists_key_foldl (h : Picks key pick) (hlast : last.isNaN = false)
    (hxs : ∀ x ∈ xs, x.isNaN = false) :
    key (xs.foldl pick last) = key last ∨ ∃ x ∈ xs, key (xs.foldl pick last) = key x := by
  -- Induction on the list, which goes on from what was picked of the first two.
  induction xs generalizing last with
  | nil => simp
  | cons x xs ih =>
    rw [List.forall_mem_cons] at hxs
    rw [List.foldl_cons, List.exists_mem_cons_iff]
    cases ih (h.isNaN last x hlast hxs.1) hxs.2 with
    | inl hpicked =>
      rw [h.key_eq last x hlast hxs.1] at hpicked
      omega
    | inr hlater => exact .inr (.inr hlater)

/-- `extreme` is no number exactly if there is something that is none. -/
theorem isNaN_extreme_iff (h : Picks key pick) (hlast : last.isNaN = false) :
    (extreme pick last xs).isNaN = true ↔ ∃ x ∈ xs, x.isNaN = true := by
  cases exists_isNaN_or xs with
  | inl hnone =>
    rw [extreme_of_isNaN hnone]
    exact iff_of_true isNaN_notANumber hnone
  | inr hxs =>
    rw [extreme_of_numbers hxs, h.isNaN_foldl hlast hxs]
    refine iff_of_false Bool.false_ne_true ?_
    rintro ⟨x, hx, hnone⟩
    exact absurd hnone (Bool.eq_false_iff.1 (hxs x hx))

/-- `extreme` is the same if there is what is no number in both lists or in none, and the same keys
are below those of the numbers. -/
theorem same (h : Picks key pick) (hkeyed : Keyed key notAfter last)
    (hnone : (∃ x ∈ xs, x.isNaN = true) ↔ ∃ y ∈ ys, y.isNaN = true)
    (hkeys : (∀ x ∈ xs, x.isNaN = false) → (∀ y ∈ ys, y.isNaN = false) → ∀ k ≤ key last,
      ((∀ x ∈ xs, k ≤ key x) ↔ ∀ y ∈ ys, k ≤ key y)) :
    Same (extreme pick last xs) (extreme pick last ys) := by
  have hlast := hkeyed.isNaN_last
  cases exists_isNaN_or ys with
  | inl hys =>
    right
    exact ⟨(h.isNaN_extreme_iff hlast).2 (hnone.2 hys), (h.isNaN_extreme_iff hlast).2 hys⟩
  | inr hys =>
    cases exists_isNaN_or xs with
    | inl hxs =>
      right
      exact ⟨(h.isNaN_extreme_iff hlast).2 hxs, (h.isNaN_extreme_iff hlast).2 (hnone.1 hxs)⟩
    | inr hxs =>
      left
      rw [extreme_of_numbers hxs, extreme_of_numbers hys,
        ← hkeyed.key_eq_iff _ _ (h.isNaN_foldl hlast hxs) (h.isNaN_foldl hlast hys)]
      -- Each of the two keys is below the other, since both are below the same keys.
      apply Int.le_antisymm
      · have ⟨hle, hbelow⟩ := (h.le_key_foldl_iff hlast hxs).1 le_rfl
        rw [h.le_key_foldl_iff hlast hys, ← hkeys hxs hys _ hle]
        exact ⟨hle, hbelow⟩
      · have ⟨hle, hbelow⟩ := (h.le_key_foldl_iff hlast hys).1 le_rfl
        rw [h.le_key_foldl_iff hlast hxs, hkeys hxs hys _ hle]
        exact ⟨hle, hbelow⟩

/-- The law `Extreme` holds for whatever picks one of two numbers. -/
theorem extreme (h : Picks key pick) (hkeyed : Keyed key notAfter last) :
    Extreme notAfter last (extreme pick last) where
  isNaN_iff xs := h.isNaN_extreme_iff hkeyed.isNaN_last
  nil := rfl
  mem xs hne hxs := by
    have hlast := hkeyed.isNaN_last
    have hnumber := h.isNaN_foldl hlast hxs
    rw [extreme_of_numbers hxs]
    cases h.exists_key_foldl hlast hxs with
    | inl heq =>
      -- Then nothing is before the last one, and all numbers are the same.
      obtain ⟨x, hx⟩ := List.exists_mem_of_ne_nil xs hne
      refine ⟨x, hx, ?_⟩
      rw [← hkeyed.key_eq_iff _ _ hnumber (hxs x hx)]
      have hle := ((h.le_key_foldl_iff hlast hxs).1 le_rfl).2 x hx
      have hle' := hkeyed.key_le_last x (hxs x hx)
      omega
    | inr hmem =>
      obtain ⟨x, hx, heq⟩ := hmem
      exact ⟨x, hx, (hkeyed.key_eq_iff _ _ hnumber (hxs x hx)).1 heq⟩
  notAfter xs hxs x hx := by
    have hlast := hkeyed.isNaN_last
    rw [extreme_of_numbers hxs, ← hkeyed.key_le_iff _ _ (h.isNaN_foldl hlast hxs) (hxs x hx)]
    exact ((h.le_key_foldl_iff hlast hxs).1 le_rfl).2 x hx
  of_mem_iff xs ys hmem := by
    apply h.same hkeyed
    · simp only [hmem]
    · intro _ _ k _
      simp only [hmem]
  append xs ys := by
    have hlast := hkeyed.isNaN_last
    apply h.same hkeyed
    · simp only [List.mem_append, or_and_right, exists_or, List.exists_mem_cons_iff,
        h.isNaN_extreme_iff hlast]
      simp
    · intro hxys _ k hk
      rw [List.forall_mem_append] at hxys
      rw [extreme_of_numbers hxys.1, extreme_of_numbers hxys.2]
      simp [h.le_key_foldl_iff hlast hxys.1, h.le_key_foldl_iff hlast hxys.2, hk, or_imp,
        forall_and]

end Picks

/-- The `level` of infinity is the size of its bits. -/
theorem level_infinity : level infinity = infinityBits := by decide +kernel

/-- Infinity is a number. -/
theorem isNaN_infinity : infinity.isNaN = false := by decide +kernel

/-- No number has a level above that of infinity. -/
theorem level_le_level_infinity (hx : x.isNaN = false) : level x ≤ level infinity := by
  have hle := ofFloat_eq_notANumber_iff.not.1 fun h => Bool.eq_false_iff.1 hx (isNaN_iff.2 h)
  rw [level_infinity, level]
  split <;> omega

/-- `level` orders numbers by `≤`. -/
theorem keyed_level : Keyed level (· ≤ ·) infinity where
  isNaN_last := isNaN_infinity
  key_le_last _ hx := level_le_level_infinity hx
  key_le_iff _ _ hx hy := (le_iff hx hy).symm
  key_eq_iff _ _ hx hy := (beq_iff hx hy).symm

/-- With the other sign `level` orders numbers by `≥`. -/
theorem keyed_neg_level : Keyed (fun x => -level x) (· ≥ ·) (-infinity) where
  isNaN_last := (isNaN_neg infinity).trans isNaN_infinity
  key_le_last x hx := by
    have hle := level_le_level_infinity ((isNaN_neg x).trans hx)
    rw [level_neg hx] at hle
    rwa [level_neg isNaN_infinity, neg_neg]
  key_le_iff _ _ hx hy := neg_le_neg_iff.trans (le_iff hy hx).symm
  key_eq_iff _ _ hx hy := neg_inj.trans (beq_iff hx hy).symm

/-- `smaller` picks the number with the lesser level. -/
theorem picks_smaller : Picks level smaller where
  isNaN a b ha hb := by
    rw [smaller]
    split <;> assumption
  key_eq a b ha hb := by
    rw [smaller]
    split
    next h => rw [lt_iff hb ha] at h; omega
    next h => rw [lt_iff hb ha] at h; omega

/-- `larger` picks the number with the greater level. -/
theorem picks_larger : Picks (fun x => -level x) larger where
  isNaN a b ha hb := by
    rw [larger]
    split <;> assumption
  key_eq a b ha hb := by
    rw [larger]
    split
    next h => rw [lt_iff ha hb] at h; omega
    next h => rw [lt_iff ha hb] at h; omega

/-- The laws `Extremes` hold for whatever picks the less and the greater of two numbers. -/
theorem Picks.extremes {less greater : Float → Float → Float} (hless : Picks level less)
    (hgreater : Picks (fun x => -level x) greater) :
    Extremes (Number.extreme less infinity) (Number.extreme greater (-infinity)) where
  least := hless.extreme keyed_level
  greatest := hgreater.extreme keyed_neg_level
  dual xs := by
    have hlast := keyed_level.isNaN_last
    have hlast' := keyed_neg_level.isNaN_last
    cases exists_isNaN_or xs with
    | inl hnone =>
      -- What is no number stays so under a changed sign.
      obtain ⟨x, hx, hx'⟩ := hnone
      have hnone' : ∃ x ∈ xs.map fun x => -x, x.isNaN = true :=
        ⟨-x, List.mem_map_of_mem hx, (isNaN_neg x).trans hx'⟩
      right
      rw [isNaN_neg, hless.isNaN_extreme_iff hlast, hgreater.isNaN_extreme_iff hlast']
      exact ⟨⟨x, hx, hx'⟩, hnone'⟩
    | inr hxs =>
      have hxs' : ∀ x ∈ xs.map fun x => -x, x.isNaN = false := by
        simpa only [List.forall_mem_map, isNaN_neg] using hxs
      have hlow := hless.isNaN_foldl hlast hxs'
      have hhigh := hgreater.isNaN_foldl hlast' hxs
      left
      rw [extreme_of_numbers hxs, extreme_of_numbers hxs',
        beq_iff hhigh ((isNaN_neg _).trans hlow), level_neg hlow, ← neg_eq_iff_eq_neg]
      -- The same levels are below both.
      apply eq_of_forall_le_iff
      intro k
      have hlevels : (∀ x ∈ xs, k ≤ level (-x)) ↔ ∀ x ∈ xs, k ≤ -level x :=
        forall₂_congr fun x hx => by rw [level_neg (hxs x hx)]
      rw [hless.le_key_foldl_iff hlast hxs', hgreater.le_key_foldl_iff hlast' hxs,
        List.forall_mem_map, hlevels, level_neg hlast, neg_neg]

/-- `least` and `greatest` are the two ends of the numbers. -/
theorem extremes : Extremes least greatest := picks_smaller.extremes picks_larger

end ScriptCore.Number
