import ScriptCore.Proofs.Number.Arithmetic
import ScriptCore.Proofs.Number.Extreme
import ScriptCore.Proofs.Number.Median

/-!
# The middle of finite numbers

Half the sum of two finite numbers is between them, whatever is rounded, unless the sum is so great
that it is infinite.  Halving comes too late then: the middle of finite numbers is infinite although
all of them are below it.

* `midpoint_between`, `midpoint_infinite`: half a sum;
* `Overflows`, `median_between_iff`: when the middle of a list is not between its extremes.
-/

namespace ScriptCore.Number

variable {x y : Float} {xs : List Float} {a b : ℚ}

/-- A number is neither infinite nor what is no number. -/
def IsFinite (x : Float) : Prop := ∃ v, (Exact.ofFloat x).value? = some v

/-- `IsFinite` can be told from the size bits. -/
theorem isFinite_iff : IsFinite x ↔ sizeBits x < infinityBits := by
  simp [IsFinite, value?_ofFloat_iff]

instance (x : Float) : Decidable (IsFinite x) := decidable_of_iff _ isFinite_iff.symm

/-- What `IsFinite` holds of is a number. -/
theorem IsFinite.isNaN (h : IsFinite x) : x.isNaN = false := by
  obtain ⟨v, hv⟩ := h
  rw [Bool.eq_false_iff, Ne, isNaN_iff]
  intro hnone
  simp [hnone, Exact.value?] at hv

/-! ## Half a sum -/

/-- The literal `2.0` stands for two. -/
theorem value?_two : (Exact.ofFloat 2.0).value? = some 2 := by
  have hparts : Exact.ofFloat 2.0 = .finite false (2 ^ 52) (-51) := by decide +kernel
  rw [hparts]
  norm_num [Exact.value?]

/-- Half a sum that is below `limit` is between the summands. -/
theorem midpoint_between (hx : (Exact.ofFloat x).value? = some a)
    (hy : (Exact.ofFloat y).value? = some b) (hab : a ≤ b) (hlt : |a + b| < limit) :
    ∃ r, (Exact.ofFloat ((x + y) / 2.0)).value? = some r ∧ a ≤ r ∧ r ≤ b := by
  have ha := onGrid_of_value? hx
  have hb := onGrid_of_value? hy
  cases rounded_add hx hy with
  | far _ hge => exact absurd hlt hge.not_gt
  | @near w hw _ below above =>
    -- The sum is rounded to a number between twice the summands, which need no rounding.
    have hlow : 2 * a ≤ w := below _ ha.two_mul (by linarith)
    have hhigh : w ≤ 2 * b := above _ hb.two_mul (by linarith)
    cases rounded_div hw value?_two two_ne_zero with
    | near hr _ below' above' =>
      exact ⟨_, hr, below' a ha (by linarith), above' b hb (by linarith)⟩
    | far _ hge =>
      -- Half of the rounded sum is no greater than the sum, so it is within the limit too.
      have hhalf : |w / 2| ≤ |w| := by
        rw [abs_div, abs_two]
        linarith [abs_nonneg w]
      exact absurd (abs_lt_limit_of_value? hw) (hge.trans hhalf).not_gt

/-- Half a sum that is not below `limit` is infinite. -/
theorem midpoint_infinite (hx : (Exact.ofFloat x).value? = some a)
    (hy : (Exact.ofFloat y).value? = some b) (hge : limit ≤ |a + b|) :
    Exact.ofFloat ((x + y) / 2.0) = .infinity (decide (a + b < 0)) := by
  cases rounded_add hx hy with
  | far hsum _ => exact ofFloat_infinity_div hsum value?_two two_pos
  | near _ hlt => exact absurd hlt hge.not_gt

/-! ## The middle -/

/-- The sum of the two numbers in the middle is too great. -/
def Overflows (xs : List Float) : Prop :=
  xs.length % 2 = 0 ∧ ∃ x y a b,
    HasRank (xs.map Float.toBits) (xs.length / 2 - 1) x.toBits ∧
    HasRank (xs.map Float.toBits) (xs.length / 2) y.toBits ∧
    (Exact.ofFloat x).value? = some a ∧ (Exact.ofFloat y).value? = some b ∧ limit ≤ |a + b|

/-- A number that stands between two numbers of a list is between `least` and `greatest` of the
list. -/
theorem between_extremes (hxs : ∀ x ∈ xs, IsFinite x) (hx : x ∈ xs) (hy : y ∈ xs) {z : Float} {r : ℚ}
    (hxv : (Exact.ofFloat x).value? = some a) (hyv : (Exact.ofFloat y).value? = some b)
    (hz : (Exact.ofFloat z).value? = some r) (har : a ≤ r) (hrb : r ≤ b) :
    least xs ≤ z ∧ z ≤ greatest xs := by
  have hnumbers : ∀ x ∈ xs, x.isNaN = false := fun x hx => (hxs x hx).isNaN
  have hzn : z.isNaN = false := IsFinite.isNaN ⟨r, hz⟩
  have hleast := extremes.least
  have hgreatest := extremes.greatest
  -- Of numbers only, both extremes are numbers.
  have hnan (f : List Float → Float) (hf : (f xs).isNaN = true ↔ ∃ x ∈ xs, x.isNaN = true) :
      (f xs).isNaN = false := by
    rw [Bool.eq_false_iff, Ne, hf]
    rintro ⟨x, hx, hnone⟩
    exact absurd hnone (Bool.eq_false_iff.1 (hnumbers x hx))
  have hlow := hnan least (hleast.isNaN_iff xs)
  have hhigh := hnan greatest (hgreatest.isNaN_iff xs)
  rw [le_iff hlow hzn, le_iff hzn hhigh]
  constructor
  · have hle := (le_iff hlow (hnumbers x hx)).1 (hleast.notAfter xs hnumbers x hx)
    exact hle.trans ((level_le_iff_of_value? hxv hz).2 har)
  · have hle := (le_iff (hnumbers y hy) hhigh).1 (hgreatest.notAfter xs hnumbers y hy)
    exact ((level_le_iff_of_value? hz hyv).2 hrb).trans hle

/-- `TotalLe` of finite numbers goes by what they stand for. -/
theorem TotalLe.value_le (h : TotalLe x.toBits y.toBits) (hx : (Exact.ofFloat x).value? = some a)
    (hy : (Exact.ofFloat y).value? = some b) : a ≤ b := by
  have hnone {z : Float} {c : ℚ} {n : Bool} (hz : (Exact.ofFloat z).value? = some c) :
      ¬IsNone n z.toBits := by
    rintro ⟨hnone, -⟩
    rw [Exact.ofFloat, hnone] at hz
    cases hz
  -- Of the places in the order, those of what is not finite are not taken.
  cases h with
  | noneBelow hx' => exact absurd hx' (hnone hx)
  | noneAbove _ hy' => exact absurd hy' (hnone hy)
  | payload hx' => exact absurd hx' (hnone hx)
  | lowest hx' =>
    rw [Exact.ofFloat, hx'] at hx
    cases hx
  | highest _ hy' =>
    rw [Exact.ofFloat, hy'] at hy
    cases hy
  | less hx' hy' h =>
    cases hx.symm.trans hx'
    cases hy.symm.trans hy'
    exact h.le
  | same hx' hy' _ =>
    cases hx.symm.trans hx'
    cases hy.symm.trans hy'
    exact le_rfl

/-- The `median` of finite numbers is finite and between their extremes, unless the two numbers in
the middle are too great. -/
theorem median_between_iff (hne : xs ≠ []) (hxs : ∀ x ∈ xs, IsFinite x) :
    (IsFinite (median xs) ∧ least xs ≤ median xs ∧ median xs ≤ greatest xs ↔ ¬Overflows xs) ∧
    (Overflows xs → ∃ n, Exact.ofFloat (median xs) = .infinity n) := by
  cases Nat.mod_two_eq_zero_or_one xs.length with
  | inr hodd =>
    -- A number in the middle is one of the list, so it is between the extremes.
    have hmem : median xs ∈ xs := by
      obtain ⟨x, hx, hbits⟩ := (median_of_odd hodd).exists_float
      exact Float.toBits_inj.1 hbits ▸ hx
    obtain ⟨v, hv⟩ := hxs _ hmem
    have hnot : ¬Overflows xs := fun h => by
      have heven := h.1
      omega
    have hbetween := between_extremes hxs hmem hmem hv hv hv le_rfl le_rfl
    exact ⟨iff_of_true ⟨⟨v, hv⟩, hbetween⟩ hnot, fun h => absurd h hnot⟩
  | inl heven =>
    obtain ⟨x, hxmem, y, hymem, hx, hy, hmedian⟩ := median_of_even heven hne
    obtain ⟨a, ha⟩ := hxs x hxmem
    obtain ⟨b, hb⟩ := hxs y hymem
    have hab : a ≤ b := (hx.totalLe hy (Nat.sub_le _ _)).value_le ha hb
    -- Both numbers in the middle are given by their ranks.
    have hoverflows : Overflows xs ↔ limit ≤ |a + b| := by
      constructor
      · rintro ⟨-, x', y', a', b', hx', hy', ha', hb', hle⟩
        cases Float.toBits_inj.1 (hx.unique hx')
        cases Float.toBits_inj.1 (hy.unique hy')
        cases ha.symm.trans ha'
        cases hb.symm.trans hb'
        exact hle
      · exact fun hle => ⟨heven, x, y, a, b, hx, hy, ha, hb, hle⟩
    rw [hmedian, hoverflows, not_le]
    obtain hlt | hge := lt_or_ge |a + b| limit
    · obtain ⟨r, hr, har, hrb⟩ := midpoint_between ha hb hab hlt
      have hbetween := between_extremes hxs hxmem hymem ha hb hr har hrb
      exact ⟨iff_of_true ⟨⟨r, hr⟩, hbetween⟩ hlt, fun h => absurd hlt h.not_gt⟩
    · have hinfinite := midpoint_infinite ha hb hge
      refine ⟨iff_of_false ?_ hge.not_gt, fun _ => ⟨_, hinfinite⟩⟩
      rintro ⟨⟨r, hr⟩, -⟩
      simp [hinfinite, Exact.value?] at hr

/-- `median` of a number that is there twice is half of its double. -/
theorem median_twice (x : Float) : median [x, x] = (x + x) / 2.0 := by
  have heven : [x, x].length % 2 = 0 := by simp
  obtain ⟨y, hy, z, hz, -, -, hmedian⟩ := median_of_even heven (List.cons_ne_nil _ _)
  obtain rfl : y = x := by simpa using hy
  obtain rfl : z = y := by simpa using hz
  exact hmedian

end ScriptCore.Number
