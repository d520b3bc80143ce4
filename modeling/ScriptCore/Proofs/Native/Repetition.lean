import Mathlib
import ScriptCore.Native.Builtin

/-!
# Copies of a text

A text is repeated by doubling: half of the copies are made once and put after themselves.  What
results is the text, one copy after the other.

* `copies_eq`: the copies one after the other;
* `utf8ByteSize_join_replicate`, `length_join_replicate`: copies multiply both lengths;
* `Builtin.repeated_eq_ok`: copies within the limit are made;
* `fits_iff`: on words of 64 bits the limit is checked as on numbers, with no product that wraps
  around.
-/

namespace ScriptCore

/-! ## Copies one after the other -/

/-- Copies can be made in two portions. -/
theorem join_replicate_add (s : String) (a b : Nat) :
    String.join (List.replicate (a + b) s) =
      String.join (List.replicate a s) ++ String.join (List.replicate b s) := by
  rw [← String.join_append, List.replicate_append_replicate]

/-- One copy more goes behind the others. -/
theorem join_replicate_succ (s : String) (n : Nat) :
    String.join (List.replicate (n + 1) s) = String.join (List.replicate n s) ++ s := by
  rw [join_replicate_add]
  simp

/-- What doubling makes in `copies` is the copies one after the other. -/
theorem Builtin.copies_eq (s : String) (n : Nat) :
    copies s n = String.join (List.replicate n s) := by
  -- Induction on the halves; an odd count has one copy more than two halves.
  fun_induction copies s n with
  | case1 => rfl
  | case2 n hn half heven ih =>
    have hhalf : half = String.join (List.replicate (n / 2) s) := ih
    have hsum : n / 2 + n / 2 = n := by omega
    rw [hhalf, ← join_replicate_add, hsum]
  | case3 n hn half hodd ih =>
    have hhalf : half = String.join (List.replicate (n / 2) s) := ih
    have hsum : n / 2 + n / 2 + 1 = n := by omega
    rw [hhalf, ← join_replicate_add, ← join_replicate_succ, hsum]

/-- Copies multiply the number of bytes. -/
theorem utf8ByteSize_join_replicate (s : String) (n : Nat) :
    (String.join (List.replicate n s)).utf8ByteSize = s.utf8ByteSize * n := by
  induction n with
  | zero => simp
  | succ n ih =>
    rw [join_replicate_succ, String.utf8ByteSize_append, ih, Nat.mul_succ]

/-- Copies multiply the number of characters. -/
theorem length_join_replicate (s : String) (n : Nat) :
    (String.join (List.replicate n s)).length = s.length * n := by
  simp [Nat.mul_comm]

/-- However often the empty text is repeated, it stays empty. -/
theorem join_replicate_empty (n : Nat) : String.join (List.replicate n "") = "" := by
  induction n with
  | zero => simp
  | succ n ih => rw [join_replicate_succ, ih, String.append_empty]

/-- `repeated` makes the copies if they are within the limit. -/
theorem Builtin.repeated_eq_ok {s : String} {n : Nat} (hsize : s.utf8ByteSize * n ≤ repeatLimit) :
    repeated s n = .ok (.string (String.join (List.replicate n s))) := by
  unfold repeated
  by_cases hempty : s.isEmpty
  · rw [if_pos hempty, String.isEmpty_iff.1 hempty, join_replicate_empty]
  · rw [if_neg hempty, if_pos hsize, copies_eq]

/-! ## The limit on words -/

/-- The product of two words of 64 bits, if it is a word. -/
def checkedProduct? (a b : UInt64) : Option UInt64 :=
  if a.toNat * b.toNat < 2 ^ 64 then some (a * b) else none

/-- Whether `count` copies of `size` bytes are within the limit, on words of 64 bits. -/
def Fits (size count : UInt64) : Prop :=
  ∃ total, checkedProduct? size count = some total ∧ total ≤ 2 ^ 30

/-- `checkedProduct?` gives a product exactly if it does not wrap around. -/
theorem checkedProduct?_eq_some_iff {a b total : UInt64} :
    checkedProduct? a b = some total ↔ total.toNat = a.toNat * b.toNat := by
  have htotal := total.toNat_lt
  unfold checkedProduct?
  split
  · rw [Option.some.injEq, ← UInt64.toNat_inj, UInt64.toNat_mul, Nat.mod_eq_of_lt ‹_›]
    exact eq_comm
  · simp only [reduceCtorEq, false_iff]
    omega

/-- `Fits` checks the limit on words as it is checked on numbers. -/
theorem fits_iff {size count : UInt64} :
    Fits size count ↔ size.toNat * count.toNat ≤ 2 ^ 30 := by
  have hlimit : (2 ^ 30 : UInt64).toNat = 2 ^ 30 := by decide
  simp only [Fits, checkedProduct?_eq_some_iff, UInt64.le_iff_toNat_le, hlimit]
  constructor
  · rintro ⟨total, htotal, hle⟩
    omega
  · intro hle
    refine ⟨.ofNat (size.toNat * count.toNat), ?_, ?_⟩ <;>
      rw [UInt64.toNat_ofNat', Nat.mod_eq_of_lt (by omega)]
    exact hle

end ScriptCore
