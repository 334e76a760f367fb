/-
Decimal numerals: the digits a number is written with, and the number a run of
digits stands for.  A numeral is canonical if some number is written that way.
-/

import Mathlib.Data.List.Induction

namespace Decimal

/-- A run of digits with no zero in front of others. -/
def Canonical (numeral : List Char) : Prop :=
  numeral ≠ [] ∧ (∀ c ∈ numeral, c.isDigit = true) ∧
    (numeral = ['0'] ∨ numeral.head? ≠ some '0')

instance (numeral : List Char) : Decidable (Canonical numeral) :=
  haveI : Decidable (∀ c ∈ numeral, c.isDigit = true) := List.decidableBAll _ numeral
  inferInstanceAs (Decidable (_ ∧ _ ∧ _))

/-- The number that a run of digits stands for. -/
def value (numeral : List Char) : Nat := Nat.ofDigitChars 10 numeral 0

theorem digit_lt {c : Char} (digit : c.isDigit = true) : c.toNat - '0'.toNat < 10 := by
  unfold Char.isDigit at digit
  rw [Bool.and_eq_true, decide_eq_true_eq, decide_eq_true_eq] at digit
  have low : 48 ≤ c.toNat := UInt32.le_iff_toNat_le.mp digit.1
  have high : c.toNat ≤ 57 := UInt32.le_iff_toNat_le.mp digit.2
  change c.toNat - 48 < 10
  omega

theorem digitChar_of_isDigit {c : Char} (digit : c.isDigit = true) :
    Nat.digitChar (c.toNat - '0'.toNat) = c := by
  have small := digit_lt digit
  apply Char.toNat_inj.mp
  rw [Nat.toNat_digitChar_of_lt_ten small]
  unfold Char.isDigit at digit
  rw [Bool.and_eq_true, decide_eq_true_eq, decide_eq_true_eq] at digit
  have low : 48 ≤ c.toNat := UInt32.le_iff_toNat_le.mp digit.1
  change 48 + (c.toNat - 48) = c.toNat
  omega

theorem value_append_singleton (front : List Char) (c : Char) :
    value (front ++ [c]) = 10 * value front + (c.toNat - '0'.toNat) := by
  unfold value
  rw [Nat.ofDigitChars_append, Nat.ofDigitChars_cons, Nat.ofDigitChars_nil]

private theorem value_pos {front : List Char}
    (written : Nat.toDigits 10 (value front) = front) (head : front.head? ≠ some '0') :
    0 < value front := by
  rcases Nat.eq_zero_or_pos (value front) with zero | positive
  · rw [zero, Nat.toDigits_zero] at written
    rw [← written] at head
    exact absurd rfl head
  · exact positive

theorem toDigits_value {numeral : List Char} (canonical : Canonical numeral) :
    Nat.toDigits 10 (value numeral) = numeral := by
  obtain ⟨nonempty, digits, lead⟩ := canonical
  rcases lead with rfl | head
  · rfl
  · induction numeral using List.reverseRecOn with
    | nil => exact absurd rfl nonempty
    | append_singleton front c ih =>
        have digit := digits c (by simp)
        rw [value_append_singleton]
        cases front with
        | nil =>
            change Nat.toDigits 10 (10 * 0 + _) = [c]
            rw [Nat.mul_zero, Nat.zero_add, Nat.toDigits_of_lt_base (digit_lt digit),
              digitChar_of_isDigit digit]
        | cons first rest =>
            have written := ih (by simp)
              (fun d among => digits d (List.mem_append_left [c] among)) head
            have positive := value_pos written head
            rw [← Nat.toDigits_append_toDigits (by decide) positive (digit_lt digit),
              written, Nat.toDigits_of_lt_base (digit_lt digit), digitChar_of_isDigit digit]

@[simp] theorem value_toDigits (number : Nat) : value (Nat.toDigits 10 number) = number :=
  Nat.ofDigitChars_ten_toDigits

theorem isDigit_of_mem_toDigits {number : Nat} {c : Char}
    (among : c ∈ Nat.toDigits 10 number) : c.isDigit = true :=
  Nat.isDigit_of_mem_toDigits (by decide) (by decide) among

theorem all_toDigits (number : Nat) : (Nat.toDigits 10 number).all Char.isDigit = true :=
  List.all_eq_true.mpr fun _ among => isDigit_of_mem_toDigits among

theorem not_mem_toDigits {number : Nat} {c : Char} (other : c.isDigit = false) :
    c ∉ Nat.toDigits 10 number := by
  intro among
  rw [isDigit_of_mem_toDigits among] at other
  exact absurd other (by decide)

theorem digit_of_mem_toDigits {base number : Nat} (big : 1 < base) {c : Char}
    (among : c ∈ Nat.toDigits base number) : ∃ place < base, c = Nat.digitChar place := by
  induction number using Nat.strongRecOn with
  | _ number ih =>
      rw [Nat.toDigits_eq_if big] at among
      by_cases small : number < base
      · rw [if_pos small, List.mem_singleton] at among
        exact ⟨number, small, among⟩
      · rw [if_neg small] at among
        rcases List.mem_append.mp among with front | last
        · exact ih (number / base) (Nat.div_lt_self (by omega) big) front
        · exact ⟨number % base, Nat.mod_lt _ (by omega), List.mem_singleton.mp last⟩

theorem head_toDigits {number : Nat} (positive : 0 < number) :
    (Nat.toDigits 10 number).head? ≠ some '0' := by
  induction number using Nat.strongRecOn with
  | _ number ih =>
      rw [Nat.toDigits_eq_if (by decide)]
      by_cases small : number < 10
      · rw [if_pos small]
        have every : ∀ digit : Fin 10, 0 < digit.val →
            [Nat.digitChar digit.val].head? ≠ some '0' := by decide
        exact every ⟨number, small⟩ positive
      · obtain ⟨first, rest, written⟩ := List.exists_cons_of_ne_nil
          (@Nat.toDigits_ne_nil (number / 10) 10)
        have front := ih (number / 10) (by omega) (by omega)
        rw [if_neg small, written]
        rw [written] at front
        exact front

theorem canonical_toDigits (number : Nat) : Canonical (Nat.toDigits 10 number) := by
  refine ⟨Nat.toDigits_ne_nil, fun c among => isDigit_of_mem_toDigits among, ?_⟩
  rcases Nat.eq_zero_or_pos number with rfl | positive
  · exact .inl (Nat.toDigits_zero 10)
  · exact .inr (head_toDigits positive)

end Decimal
