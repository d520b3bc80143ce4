import Mathlib.Data.List.Sort
import ScriptCore.Proofs.Number.Order

/-!
# The middle of a list of numbers

A pattern of bits has a rank in a list if as many patterns of the list can stand before it when the
list is put in order.  Counting tells the ranks, so they do not depend on how the list is arranged.
What half a sum is, is left open here, since the bits of what is no number are not the same on all
machines: all that is said holds for any function `half` of two patterns.

* `HasRank`: the ranks of the patterns of a list;
* `HasRank.unique`: there is one pattern of a rank;
* `hasRank_of_ordered`: the pattern at a place of the list in order has the place as its rank;
* `middle_of_perm`, `middle_of_odd`, `middle_of_even`: the middle of a list of patterns;
* `median_of_odd`, `median_of_even`: the middle of a list of numbers.
-/

namespace ScriptCore.Number

variable {a b : UInt64} {words others : List UInt64} {half : UInt64 → UInt64 → UInt64} {k : Nat}
  {xs : List Float}

/-! ## Ranks -/

/-- A pattern of a list has a rank: up to so many of the list are before it in the total order, and
more than so many are not after it. -/
structure HasRank (words : List UInt64) (k : Nat) (a : UInt64) : Prop where
  mem : a ∈ words
  before : words.countP (fun c => ¬TotalLe a c) ≤ k
  upTo : k < words.countP (fun c => TotalLe c a)

namespace HasRank

/-- `HasRank` does not depend on how the list is arranged. -/
theorem of_perm (h : HasRank words k a) (hperm : words.Perm others) : HasRank others k a where
  mem := hperm.mem_iff.1 h.mem
  before := hperm.countP_eq _ ▸ h.before
  upTo := hperm.countP_eq _ ▸ h.upTo

/-- `TotalLe` holds between a pattern and another one of a rank that is not lesser. -/
theorem totalLe {j : Nat} (h : HasRank words j a) (h' : HasRank words k b) (hjk : j ≤ k) :
    TotalLe a b := by
  by_contra hnot
  -- Then what is not after `b` is before `a`.
  have hle : words.countP (fun c => TotalLe c b) ≤ words.countP (fun c => ¬TotalLe a c) := by
    apply List.countP_mono_left
    intro c _ hc
    simp only [decide_eq_true_eq] at hc ⊢
    exact fun ha => hnot (ha.trans hc)
  have hbefore := h.before
  have hupTo := h'.upTo
  omega

/-- `HasRank` is about one pattern for each rank. -/
theorem unique (h : HasRank words k a) (h' : HasRank words k b) : a = b :=
  (h.totalLe h' le_rfl).antisymm (h'.totalLe h le_rfl)

end HasRank

/-! ## The list in order -/

/-- `ordered` only arranges the list. -/
theorem perm_ordered (words : List UInt64) : (ordered words).Perm words := List.mergeSort_perm _ _

/-- `ordered` keeps the length. -/
theorem length_ordered (words : List UInt64) : (ordered words).length = words.length :=
  (perm_ordered words).length_eq

/-- `ordered` puts no pattern before one that is before it in the order. -/
theorem pairwise_ordered (words : List UInt64) : (ordered words).Pairwise TotalLe := by
  -- The sort compares keys, and the order is told by the keys.
  have hsorted : (ordered words).Pairwise fun a b => decide (orderKey a ≤ orderKey b) = true := by
    apply List.pairwise_mergeSort
    · intro a b c hab hbc
      simp only [decide_eq_true_eq, ← totalLe_iff] at hab hbc ⊢
      exact hab.trans hbc
    · intro a b
      simpa [← totalLe_iff] using totalLe_total a b
  exact hsorted.imp fun h => totalLe_iff.2 (of_decide_eq_true h)

/-- In a list in order, what stands at an earlier place is not after what stands at a later one. -/
theorem totalLe_getElem (hwords : words.Pairwise TotalLe) {i j : Nat} (hij : i ≤ j)
    (hj : j < words.length) : TotalLe words[i] words[j] := by
  rcases Nat.eq_or_lt_of_le hij with rfl | hlt
  · exact .refl _
  · exact List.pairwise_iff_getElem.1 hwords i j _ hj hlt

/-- At a place of a list in order is the pattern of that rank. -/
theorem hasRank_of_pairwise (hwords : words.Pairwise TotalLe) (ha : words[k]? = some a) :
    HasRank words k a := by
  obtain ⟨hk, rfl⟩ := List.getElem?_eq_some_iff.1 ha
  -- Up to the place no pattern is after this one, and from there on none is before it.
  have hbefore : ∀ c ∈ words.take (k + 1), TotalLe c words[k] := by
    intro c hc
    obtain ⟨i, hi, rfl⟩ := List.mem_take_iff_getElem.1 hc
    exact totalLe_getElem hwords (by omega) hk
  have hafter : ∀ c ∈ words.drop k, TotalLe words[k] c := by
    intro c hc
    obtain ⟨i, hi, rfl⟩ := List.mem_drop_iff_getElem.1 hc
    exact totalLe_getElem hwords (by omega) _
  refine ⟨List.getElem_mem hk, ?_, ?_⟩
  · -- Only patterns at the places below `k` can be before it.
    have hnone : (words.drop k).countP (fun c => ¬TotalLe words[k] c) = 0 := by
      rw [List.countP_eq_zero]
      intro c hc
      simpa using hafter c hc
    calc words.countP (fun c => ¬TotalLe words[k] c)
        = (words.take k).countP (fun c => ¬TotalLe words[k] c) := by
          rw [← Nat.add_zero (List.countP _ (words.take k)), ← hnone, ← List.countP_append,
            List.take_append_drop]
      _ ≤ (words.take k).length := List.countP_le_length
      _ ≤ k := List.length_take_le k words
  · -- The patterns at the places up to `k` are not after it.
    calc k + 1 = (words.take (k + 1)).length := by rw [List.length_take, Nat.min_eq_left hk]
      _ = (words.take (k + 1)).countP (fun c => TotalLe c words[k]) :=
          (List.countP_eq_length.2 fun c hc => decide_eq_true (hbefore c hc)).symm
      _ ≤ words.countP (fun c => TotalLe c words[k]) := (List.take_sublist _ _).countP_le

/-- The pattern at a place of `ordered` has the place as its rank. -/
theorem hasRank_of_ordered (ha : (ordered words)[k]? = some a) : HasRank words k a :=
  (hasRank_of_pairwise (pairwise_ordered words) ha).of_perm (perm_ordered words)

/-- There is a pattern of each rank below the length. -/
theorem exists_ordered (hk : k < words.length) :
    ∃ a, (ordered words)[k]? = some a ∧ HasRank words k a := by
  rw [← length_ordered] at hk
  have ha := List.getElem?_eq_getElem hk
  exact ⟨_, ha, hasRank_of_ordered ha⟩

/-! ## The middle of patterns -/

/-- `middle` of an odd number of patterns is the one with as many ranks below as above. -/
theorem middle_of_odd (h : words.length % 2 = 1) :
    HasRank words (words.length / 2) (middle half words) := by
  have hlt : words.length / 2 < words.length := by omega
  obtain ⟨a, ha, hrank⟩ := exists_ordered hlt
  have hmiddle : middle half words = a := by
    simp [middle, length_ordered, h, ha]
  exact hmiddle ▸ hrank

/-- `middle` of an even number of patterns is `half` of the two around the middle. -/
theorem middle_of_even (h : words.length % 2 = 0) (hne : words ≠ []) : ∃ a b,
    HasRank words (words.length / 2 - 1) a ∧ HasRank words (words.length / 2) b ∧
      middle half words = half a b := by
  have hpos := List.length_pos_iff.2 hne
  have hlower : words.length / 2 - 1 < words.length := by omega
  have hupper : words.length / 2 < words.length := by omega
  obtain ⟨a, ha, hrank⟩ := exists_ordered hlower
  obtain ⟨b, hb, hrank'⟩ := exists_ordered hupper
  refine ⟨a, b, hrank, hrank', ?_⟩
  simp [middle, length_ordered, h, ha, hb]

/-! ## The middle of numbers -/

/-- A pattern with a rank among the bits of numbers is that of one of them. -/
theorem HasRank.exists_float (h : HasRank (xs.map Float.toBits) k a) : ∃ x ∈ xs, x.toBits = a :=
  List.mem_map.1 h.mem

/-- `median` of an odd number is the one in the middle: numbers keep their bits. -/
theorem median_of_odd (h : xs.length % 2 = 1) :
    HasRank (xs.map Float.toBits) (xs.length / 2) (median xs).toBits := by
  rw [← List.length_map Float.toBits] at h ⊢
  have hrank : HasRank (xs.map Float.toBits) _ (middle halfSum _) := middle_of_odd h
  obtain ⟨x, -, hx⟩ := hrank.exists_float
  rw [median, ← hx, Float.ofBits_toBits, hx]
  exact hrank

/-- `median` of an even number is half the sum of the two in the middle. -/
theorem median_of_even (h : xs.length % 2 = 0) (hne : xs ≠ []) : ∃ x ∈ xs, ∃ y ∈ xs,
    HasRank (xs.map Float.toBits) (xs.length / 2 - 1) x.toBits ∧
    HasRank (xs.map Float.toBits) (xs.length / 2) y.toBits ∧ median xs = (x + y) / 2.0 := by
  rw [← List.length_map Float.toBits] at h ⊢
  have hne' : xs.map Float.toBits ≠ [] := by simpa using hne
  obtain ⟨a, b, ha, hb, hmiddle⟩ := @middle_of_even _ halfSum h hne'
  obtain ⟨x, hxs, rfl⟩ := ha.exists_float
  obtain ⟨y, hys, rfl⟩ := hb.exists_float
  refine ⟨x, hxs, y, hys, ha, hb, ?_⟩
  rw [median, hmiddle, halfSum, Float.ofBits_toBits, Float.ofBits_toBits, Float.ofBits_toBits]

end ScriptCore.Number
