import LineBudget.Number.Numeral
import Mathlib.Data.Nat.Digits.Lemmas

/-! Integers written in base ten: which characters they have, and which of them are too long. -/
namespace LineBudget.Number

theorem isDigit_of_mem_toString {n : Nat} {c : Char} (member : c ∈ (toString n).toList) :
    c.isDigit = true := by
  rw [Nat.toString_eq_repr, Nat.repr_eq_ofList_toDigits, String.toList_ofList] at member
  exact Nat.isDigit_of_mem_toDigits (by decide) (by decide) member

theorem isWritable_iff {i : Int} : isWritable i = true ↔ i.natAbs < 10 ^ maxDigits := by
  rw [isWritable, decide_eq_true_iff]
  exact Nat.length_toDigits_le_iff (by decide) (by decide)

theorem isWritable_of_le {i j : Int} (positive : 0 ≤ i) (less : i ≤ j)
    (writable : isWritable j = true) : isWritable i = true := by
  have small : i.natAbs ≤ j.natAbs := by omega
  rw [isWritable_iff] at writable ⊢
  exact Nat.lt_of_le_of_lt small writable

end LineBudget.Number
