import Mathlib.Tactic.Ring
import Triage.Text.Digits

namespace Triage.Text

theorem isDigit_eq (c : Char) : isDigit c = c.isDigit := by
  simp [isDigit, Char.isDigit, Char.le_def]

theorem digitValue?_digit (digit : isDigit c = true) : digitValue? 10 c = some (c.toNat - '0'.toNat) := by
  simp only [isDigit, Bool.and_eq_true, decide_eq_true_eq, Char.le_def, UInt32.le_iff_toNat_le] at digit
  have low : 0x30 ≤ c.toNat := digit.1
  have high : c.toNat ≤ 0x39 := digit.2
  have value : c.toNat - 0x30 < 10 := by omega
  simp [digitValue?, low, high, Option.filter, value]

theorem foldlM_digits (digits : ∀ c ∈ text, isDigit c = true) (total : Nat) :
    text.foldlM (fun total c => (digitValue? 10 c).map (total * 10 + ·)) total =
      some (Nat.ofDigitChars 10 text total) := by
  induction text generalizing total with
  | nil => rfl
  | cons c text ih =>
      obtain ⟨here, later⟩ := List.forall_mem_cons.mp digits
      rw [List.foldlM_cons, digitValue?_digit here, Nat.ofDigitChars_cons, Nat.mul_comm 10]
      exact ih later _

theorem decimal_eq (n : Nat) : decimal n = Nat.toDigits 10 n := by
  rw [decimal, Nat.toString_eq_ofList_toDigits, String.toList_ofList]

theorem decimal_digits (n : Nat) : ∀ c ∈ decimal n, isDigit c = true := by
  intro c member
  rw [decimal_eq] at member
  rw [isDigit_eq]
  exact Nat.isDigit_of_mem_toDigits (by decide) (by decide) member

theorem decimal_filled (n : Nat) : decimal n ≠ [] := by
  rw [decimal_eq]
  exact Nat.toDigits_ne_nil

theorem readDigits?_decimal (n : Nat) : readDigits? 10 (decimal n) = some n := by
  rw [readDigits?, if_neg (by simpa using decimal_filled n), foldlM_digits (decimal_digits n), decimal_eq,
    Nat.ofDigitChars_ten_toDigits]

theorem decimal_zero (starts : decimal n = '0' :: more) : n = 0 := by
  rw [decimal_eq] at starts
  induction n using Nat.strong_induction_on generalizing more with
  | _ n ih =>
    by_cases small : n < 10
    · have single : ∀ n < 10, Nat.digitChar n = '0' → n = 0 := by decide
      rw [Nat.toDigits_of_lt_base small, List.cons.injEq] at starts
      exact single n small starts.1
    · -- A longer number starts as its tenth part does, which is not zero.
      rw [Nat.toDigits_of_base_le (by decide) (by omega)] at starts
      obtain ⟨first, others, parts⟩ := List.exists_cons_of_ne_nil (Nat.toDigits_ne_nil (n := n / 10) (b := 10))
      rw [parts, List.cons_append, List.cons.injEq] at starts
      rw [starts.1] at parts
      have tenth := ih (n / 10) (by omega) parts
      omega

theorem decimal_length (positive : 0 < width) : (decimal n).length ≤ width ↔ n < 10 ^ width := by
  rw [decimal_eq]
  exact Nat.length_toDigits_le_iff (by decide) positive

theorem digitValue?_hexDigit (case : Case) (small : n < 16) : digitValue? 16 (hexDigit case n) = some n := by
  have each : ∀ n < 16, digitValue? 16 (hexDigit .lower n) = some n ∧ digitValue? 16 (hexDigit .upper n) = some n := by
    decide
  cases case with
  | lower => exact (each n small).1
  | upper => exact (each n small).2

theorem foldlM_hex (case : Case) (width n total : Nat) :
    (hex case width n).foldlM (fun total c => (digitValue? 16 c).map (total * 16 + ·)) total =
      some (total * 16 ^ width + n % 16 ^ width) := by
  induction width generalizing n with
  | zero => simp [hex, Nat.mod_one]
  | succ width ih =>
      have last := digitValue?_hexDigit case (Nat.mod_lt n (by decide : 0 < 16))
      have parts : n % 16 ^ (width + 1) = n % 16 + 16 * (n / 16 % 16 ^ width) := by
        rw [Nat.pow_succ', Nat.mod_mul]
      calc (hex case (width + 1) n).foldlM (fun total c => (digitValue? 16 c).map (total * 16 + ·)) total
        _ = some ((total * 16 ^ width + n / 16 % 16 ^ width) * 16 + n % 16) := by
            simp [hex, ih, last]
        _ = some (total * 16 ^ (width + 1) + n % 16 ^ (width + 1)) := by
            rw [parts, Nat.pow_succ]
            congr 1
            ring

theorem readDigits?_hex (case : Case) (positive : 0 < width) (small : n < 16 ^ width) :
    readDigits? 16 (hex case width n) = some n := by
  have filled : hex case width n ≠ [] := by
    rw [← List.length_pos_iff, hex_length]
    exact positive
  rw [readDigits?, if_neg (by simpa using filled), foldlM_hex, Nat.zero_mul, Nat.zero_add, Nat.mod_eq_of_lt small]

end Triage.Text
