import ScriptCore.Text.WhiteSpace

/-!
# White space by its code points

A set of characters is kept as an ascending list of bounds, and a binary search counts how many of
them are not above a code point.  An odd number means that the code point stands between two bounds
that belong together.

* `rank_eq_countP`: what the search counts;
* `CodePointSet.contains_iff`: the members of a set are those in its intervals;
* `isWhiteSpace_iff`: white space, code point by code point.
-/

namespace ScriptCore.Text

variable {key : Nat → Nat} {bounds : List Nat} {c lo hi : Nat}

/-! ## The search -/

/-- `rank` divides the places: below its result the keys are not above `c`, and from it on they are.
-/
theorem rank_divides (hle : lo ≤ hi) (hkey : ∀ i j, i ≤ j → j < hi → key i ≤ key j) :
    rank key c lo hi ≤ hi ∧ (∀ i, lo ≤ i → i < rank key c lo hi → key i ≤ c) ∧
      ∀ i, rank key c lo hi ≤ i → i < hi → c < key i := by
  -- Induction on the search; what it leaves out is on one side of the middle.
  fun_induction rank key c lo hi with
  | case1 lo hi hlt middle hmiddle ih =>
    obtain ⟨hrank, hbelow, habove⟩ := ih (by omega) hkey
    refine ⟨hrank, fun i hlow hi => ?_, habove⟩
    -- Up to the middle no key is above the one in the middle.
    by_cases hleft : i ≤ middle
    · exact Nat.le_trans (hkey i middle hleft (by omega)) hmiddle
    · exact hbelow i (by omega) hi
  | case2 lo hi hlt middle hmiddle ih =>
    obtain ⟨hrank, hbelow, habove⟩ := ih (by omega) fun i j hij hj => hkey i j hij (by omega)
    refine ⟨by omega, hbelow, fun i hlow hi => ?_⟩
    -- From the middle on no key is below the one in the middle.
    by_cases hright : middle ≤ i
    · exact Nat.lt_of_lt_of_le (by omega) (hkey middle i hright hi)
    · exact habove i hlow (by omega)
  | case3 lo hi hge =>
    exact ⟨hle, fun i _ _ => by omega, fun i _ _ => by omega⟩

/-- `rank` counts the keys that are not above `c`. -/
theorem rank_eq_countP (hbounds : bounds.Pairwise (· ≤ ·)) :
    rank (fun i => bounds[i]?.getD 0) c 0 bounds.length = bounds.countP (· ≤ c) := by
  have hget (i : Nat) (hi : i < bounds.length) : bounds[i]?.getD 0 = bounds[i] := by
    rw [List.getElem?_eq_getElem hi, Option.getD_some]
  -- The bounds ascend, read as a function of their places.
  have hkey : ∀ i j, i ≤ j → j < bounds.length → bounds[i]?.getD 0 ≤ bounds[j]?.getD 0 := by
    intro i j hij hj
    rw [hget i (by omega), hget j hj]
    rcases Nat.eq_or_lt_of_le hij with rfl | hlt
    · exact Nat.le_refl _
    · exact List.pairwise_iff_getElem.1 hbounds i j _ hj hlt
  obtain ⟨hrank, hbelow, habove⟩ := rank_divides (c := c) (Nat.zero_le bounds.length) hkey
  -- Below the result all keys count, and from it on none does.
  generalize rank (fun i => bounds[i]?.getD 0) c 0 bounds.length = r at hrank hbelow habove ⊢
  have htake : (bounds.take r).countP (· ≤ c) = r := by
    rw [List.countP_eq_length.2, List.length_take, Nat.min_eq_left hrank]
    intro a ha
    obtain ⟨i, hi, rfl⟩ := List.mem_take_iff_getElem.1 ha
    have hle := hbelow i (Nat.zero_le i) (by omega)
    rw [hget i (by omega)] at hle
    simpa using hle
  have hdrop : (bounds.drop r).countP (· ≤ c) = 0 := by
    rw [List.countP_eq_zero]
    intro a ha
    obtain ⟨i, hi, rfl⟩ := List.mem_drop_iff_getElem.1 ha
    have hlt := habove (r + i) (Nat.le_add_right r i) (by omega)
    rw [hget _ (by omega)] at hlt
    simpa using hlt
  rw [← List.take_append_drop r bounds, List.countP_append, htake, hdrop, Nat.add_zero]

/-! ## Intervals -/

/-- A code point is in one of the intervals that the bounds make, two and two: the first of the two is
in it, the second one is the first that is not. -/
def InIntervals : List Nat → Nat → Prop
  | [], _ => False
  | [low], c => low ≤ c
  | low :: high :: bounds, c => low ≤ c ∧ c < high ∨ InIntervals bounds c

/-- An odd number of bounds is not above a code point exactly `InIntervals`. -/
theorem odd_countP_iff (hbounds : bounds.Pairwise (· ≤ ·)) :
    bounds.countP (· ≤ c) % 2 = 1 ↔ InIntervals bounds c := by
  -- Induction by two bounds; if the second one counts, both do, and the parity is that of the others.
  fun_induction InIntervals bounds c with
  | case1 => simp
  | case2 low c => by_cases h : low ≤ c <;> simp [h]
  | case3 low high bounds c ih =>
    obtain ⟨hlow, hhigh, hrest⟩ : (∀ b ∈ high :: bounds, low ≤ b) ∧ (∀ b ∈ bounds, high ≤ b) ∧
        bounds.Pairwise (· ≤ ·) := by
      simpa only [List.pairwise_cons] using hbounds
    have hle := hlow high List.mem_cons_self
    rw [List.countP_cons, List.countP_cons, ← ih hrest]
    by_cases hc : high ≤ c
    · have hlow : low ≤ c := by omega
      simp only [hc, hlow, decide_true, if_true]
      omega
    -- Where the second bound does not count, no later one does.
    · have hnone : bounds.countP (· ≤ c) = 0 := by
        rw [List.countP_eq_zero]
        intro b hb
        have := hhigh b hb
        simp only [decide_eq_true_eq]
        omega
      by_cases hlow : low ≤ c <;> simp [hc, hlow, hnone]
      omega

/-- `CodePointSet.contains` holds of the characters in the intervals of a set. -/
theorem CodePointSet.contains_iff {s : CodePointSet} {c : Char}
    (hbounds : s.bounds.toList.Pairwise (· ≤ ·)) :
    s.contains c = true ↔ InIntervals s.bounds.toList c.toNat := by
  have hrank : rank (s.bounds.getD · 0) c.toNat 0 s.bounds.size =
      s.bounds.toList.countP (· ≤ c.toNat) := by
    rw [← rank_eq_countP hbounds]
    simp [Array.getD_eq_getD_getElem?]
  rw [← odd_countP_iff hbounds, contains, hrank, beq_iff_eq]

/-! ## White space -/

/-- A character with the Unicode property White_Space. -/
def WhiteSpace (c : Char) : Prop :=
  (0x9 ≤ c.toNat ∧ c.toNat ≤ 0xD) ∨ c.toNat = 0x20 ∨ c.toNat = 0x85 ∨ c.toNat = 0xA0 ∨
  c.toNat = 0x1680 ∨ (0x2000 ≤ c.toNat ∧ c.toNat ≤ 0x200A) ∨ c.toNat = 0x2028 ∨
  c.toNat = 0x2029 ∨ c.toNat = 0x202F ∨ c.toNat = 0x205F ∨ c.toNat = 0x3000

instance (c : Char) : Decidable (WhiteSpace c) := inferInstanceAs (Decidable (_ ∨ _))

/-- `isWhiteSpace` holds of the characters with the property `WhiteSpace` and of no others. -/
theorem isWhiteSpace_iff {c : Char} : isWhiteSpace c = true ↔ WhiteSpace c := by
  rw [isWhiteSpace, CodePointSet.contains_iff (by decide), WhiteSpace]
  simp only [whiteSpace, InIntervals, or_false]
  omega

end ScriptCore.Text
