import Triage.Datum.Display
import Triage.Json.Reader
import Triage.Proofs.Text.Digits

namespace Triage
open Triage.Text

namespace Datum

theorem integerText_natural (n : Nat) : integerText (Int.ofNat n) = decimal n := rfl

theorem integerText_negative (n : Nat) : integerText (Int.negSucc n) = '-' :: decimal (n + 1) := by
  have parts : toString (Int.negSucc n) = "-" ++ toString (n + 1) := rfl
  rw [integerText, parts, String.toList_append]
  rfl

theorem fitsLimit_iff (n : Int) : fitsLimit n = true ↔ (decimal n.natAbs).length ≤ digitLimit := by
  have positive : 0 < digitLimit := by decide
  unfold fitsLimit
  generalize digitLimit = limit at positive ⊢
  rw [decide_eq_true_iff, decimal_length positive]
  rfl

end Datum

theorem Text.decimal_first (n : Nat) : ∃ c more, decimal n = c :: more ∧ isDigit c = true := by
  obtain ⟨c, more, parts⟩ := List.exists_cons_of_ne_nil (decimal_filled n)
  exact ⟨c, more, parts, decimal_digits n c (by simp [parts])⟩

theorem Datum.integerText_first (n : Int) : ∃ c more, integerText n = c :: more ∧
    (isDigit c = true ∨ c = '-' ∧ ∃ digit others, more = digit :: others ∧ isDigit digit = true) := by
  cases n with
  | ofNat n =>
      obtain ⟨c, more, parts, digit⟩ := decimal_first n
      exact ⟨c, more, parts, .inl digit⟩
  | negSucc n => exact ⟨'-', decimal (n + 1), integerText_negative n, .inr ⟨rfl, decimal_first (n + 1)⟩⟩

namespace Json

def EndsNumber (rest : List Char) : Prop :=
  ∀ c more, rest = c :: more → isDigit c = false ∧ c ≠ '.' ∧ c ≠ 'e' ∧ c ≠ 'E'

theorem wholePart_decimal (n : Nat) (ends : EndsNumber rest) : wholePart (decimal n ++ rest) = (decimal n, rest) := by
  have stops : rest.takeWhile isDigit = [] ∧ rest.dropWhile isDigit = rest := by
    cases rest with
    | nil => exact ⟨rfl, rfl⟩
    | cons c more => simp [(ends c more rfl).1]
  obtain ⟨c, more, parts, _⟩ := decimal_first n
  by_cases zero : c = '0'
  · rw [zero] at parts
    rw [decimal_zero parts]
    rfl
  · have general : wholePart (decimal n ++ rest) =
        ((decimal n ++ rest).takeWhile isDigit, (decimal n ++ rest).dropWhile isDigit) := by
      rw [parts, List.cons_append, wholePart]
      simp [zero]
    rw [general, List.takeWhile_append_of_pos (decimal_digits n), List.dropWhile_append_of_pos (decimal_digits n),
      stops.1, stops.2, List.append_nil]

theorem fractionPart_none (ends : EndsNumber rest) : fractionPart rest = ([], rest) := by
  cases rest with
  | nil => rfl
  | cons c more => simp [fractionPart, (ends c more rfl).2.1]

theorem exponentPart_none (ends : EndsNumber rest) : exponentPart rest = (none, rest) := by
  cases rest with
  | nil => rfl
  | cons c more => simp [exponentPart, (ends c more rfl).2.2]

theorem readLiteral?_integerText (n : Int) (rest : List Char) :
    readLiteral? (Datum.integerText n ++ rest) = none := by
  have letters : ∀ {c}, isDigit c = true → c ≠ 'n' ∧ c ≠ 't' ∧ c ≠ 'f' ∧ c ≠ 'N' ∧ c ≠ 'I' ∧ c ≠ '-' := by
    intro c digit
    refine ⟨?_, ?_, ?_, ?_, ?_, ?_⟩ <;> (rintro rfl; cases digit)
  obtain ⟨c, more, parts, first⟩ := Datum.integerText_first n
  rw [parts]
  rcases first with digit | ⟨rfl, second, others, rfl, digit⟩
  · obtain ⟨n, t, f, nan, infinity, minus⟩ := letters digit
    simp [readLiteral?, literals, afterStart?, n.symm, t.symm, f.symm, nan.symm, infinity.symm, minus.symm]
  · simp [readLiteral?, literals, afterStart?, (letters digit).2.2.2.2.1.symm]

theorem readNumber_integerText (fits : Datum.fitsLimit n = true) (ends : EndsNumber rest) :
    readNumber (Datum.integerText n ++ rest) = .ok (.int n, rest) := by
  rw [Datum.fitsLimit_iff] at fits
  cases n with
  | ofNat n =>
      obtain ⟨c, more, parts, digit⟩ := decimal_first n
      have unsigned : c ≠ '-' := by
        rintro rfl
        cases digit
      have whole := wholePart_decimal n ends
      have short : (decimal n).length ≤ Datum.digitLimit := fits
      have value := readDigits?_decimal n
      rw [Datum.integerText_natural]
      rw [parts, List.cons_append] at whole ⊢
      rw [parts] at short value
      simpa [readNumber, unsigned, whole, fractionPart_none ends, exponentPart_none ends, value] using short
  | negSucc n =>
      have short : ¬Datum.digitLimit < (decimal (n + 1)).length := Nat.not_lt.mpr fits
      rw [Datum.integerText_negative, List.cons_append, readNumber]
      simp only [wholePart_decimal (n + 1) ends, fractionPart_none ends, exponentPart_none ends, readDigits?_decimal,
        short, List.isEmpty_nil, Option.isNone_none, Bool.and_true, if_true, if_false]
      rfl

end Json

end Triage
