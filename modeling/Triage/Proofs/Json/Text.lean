import Triage.Json.Reader
import Triage.Json.Writer
import Triage.Proofs.Text.Digits

namespace Triage.Json
open Triage.Text

def charUnits (c : Char) : List Nat :=
  if c.toNat < 0x10000 then [c.toNat] else [highHalf c.toNat, lowHalf c.toNat]

theorem toNat_lt (c : Char) : c.toNat < 0x110000 := by
  rcases c.valid with low | high
  · have bound : c.toNat < 0xD800 := low
    omega
  · exact high.2

theorem charUnits_ascii (ascii : c.toNat < 0x80) : charUnits c = [c.toNat] := by
  rw [charUnits, if_pos (by omega)]

theorem readUnits_unit (start : List Char) (small : unit < 0x10000) (filled : text ≠ [])
    (later : readUnits start text = .ok (units, rest)) :
    readUnits start (unitEscape unit ++ text) = .ok (unit :: units, rest) := by
  obtain ⟨first, more, rfl⟩ := List.exists_cons_of_ne_nil filled
  have digits : hex .lower 4 unit = [hexDigit .lower (unit / 16 / 16 / 16 % 16), hexDigit .lower (unit / 16 / 16 % 16),
      hexDigit .lower (unit / 16 % 16), hexDigit .lower (unit % 16)] := rfl
  have value := readDigits?_hex .lower (by decide : 0 < 4) small
  rw [digits] at value
  simp only [unitEscape, digits, List.cons_append, List.nil_append, readUnits, value, later]
  rfl

theorem readUnits_short (start : List Char) (escape : shortEscape? mark = some c)
    (later : readUnits start text = .ok (units, rest)) :
    readUnits start ('\\' :: mark :: text) = .ok (c.toNat :: units, rest) := by
  have marked : mark ≠ 'u' := by
    rintro rfl
    cases escape
  rw [readUnits]
  · simp only [escape, later]
    rfl
  all_goals simp_all

theorem readUnits_plain (start : List Char) (notMark : c ≠ '"') (notEscape : c ≠ '\\') (visible : 0x20 ≤ c.toNat)
    (later : readUnits start text = .ok (units, rest)) :
    readUnits start (c :: text) = .ok (c.toNat :: units, rest) := by
  rw [readUnits]
  · rw [if_neg (by omega), later]
    rfl
  all_goals simp_all

def shortMarks : List Char := ['"', '\\', 'n', 'r', 't', 'f', 'b']

-- The four ways in which a character is written inside a text.
inductive Escapes (c : Char) : List Char → Prop where
  | short (known : mark ∈ shortMarks) (escape : shortEscape? mark = some c)
      (hidden : c.toNat < 0x20 ∨ c.toNat = 0x22 ∨ c.toNat = 0x5C) : Escapes c ['\\', mark]
  | plain (notMark : c ≠ '"') (notEscape : c ≠ '\\') (low : 0x20 ≤ c.toNat) (high : c.toNat ≤ 0x7E) : Escapes c [c]
  | unit (small : c.toNat < 0x10000) (hidden : c.toNat < 0x20 ∨ 0x7E < c.toNat) : Escapes c (unitEscape c.toNat)
  | halves (large : 0x10000 ≤ c.toNat) : Escapes c (unitEscape (highHalf c.toNat) ++ unitEscape (lowHalf c.toNat))

theorem escapes_escapedChar (c : Char) : Escapes c (escapedChar c) := by
  unfold escapedChar
  -- One step for each of the short marks.
  iterate 7
    split
    · rename_i same
      rw [same]
      exact .short (by decide) rfl (by decide)
  split
  · rename_i notMark notEscape _ _ _ _ _ visible
    simp only [Bool.and_eq_true, decide_eq_true_eq] at visible
    exact .plain notMark notEscape visible.1 visible.2
  rename_i hidden
  rw [Bool.and_eq_true, decide_eq_true_eq, decide_eq_true_eq] at hidden
  split
  · rename_i small
    exact .unit small (by omega)
  · rename_i large
    exact .halves (by omega)

theorem readUnits_escapedChar (start : List Char) (c : Char) (filled : text ≠ [])
    (later : readUnits start text = .ok (units, rest)) :
    readUnits start (escapedChar c ++ text) = .ok (charUnits c ++ units, rest) := by
  have escapes := escapes_escapedChar c
  generalize escapedChar c = written at escapes ⊢
  cases escapes with
  | short known escape hidden =>
      rw [charUnits_ascii (by omega)]
      exact readUnits_short start escape later
  | plain notMark notEscape low high =>
      rw [charUnits_ascii (by omega)]
      exact readUnits_plain start notMark notEscape low later
  | unit small hidden =>
      rw [charUnits, if_pos small]
      exact readUnits_unit start small filled later
  | halves large =>
      have bound := toNat_lt c
      have second : readUnits start (unitEscape (lowHalf c.toNat) ++ text) = .ok (lowHalf c.toNat :: units, rest) :=
        readUnits_unit start (by unfold lowHalf; omega) filled later
      rw [charUnits, if_neg (by omega), List.append_assoc]
      exact readUnits_unit start (by unfold highHalf; omega) (by simp [unitEscape]) second

theorem readUnits_escaped (start chars rest : List Char) :
    readUnits start (chars.flatMap escapedChar ++ '"' :: rest) = .ok (chars.flatMap charUnits, rest) := by
  induction chars with
  | nil => rfl
  | cons c chars ih =>
      rw [List.flatMap_cons, List.append_assoc, List.flatMap_cons]
      exact readUnits_escapedChar start c (by simp) ih

theorem joinHalves_unit (whole : isHighHalf unit = false) (units : List Nat) :
    joinHalves (unit :: units) = unitChar unit :: joinHalves units := by
  cases units with
  | nil => rfl
  | cons next units => simp [joinHalves, whole]

theorem unitChar_toNat (c : Char) : isHighHalf c.toNat = false ∧ unitChar c.toNat = c := by
  have halfless : isHighHalf c.toNat = false ∧ isLowHalf c.toNat = false := by
    simp only [isHighHalf, isLowHalf, Bool.and_eq_false_iff, decide_eq_false_iff_not]
    rcases c.valid with low | high
    · have bound : c.toNat < 0xD800 := low
      omega
    · have bound : 0xDFFF < c.toNat := high.1
      omega
  refine ⟨halfless.1, ?_⟩
  rw [unitChar, halfless.1, halfless.2]
  exact Char.ofNat_toNat c

theorem joinHalves_halves (large : ¬c.toNat < 0x10000) (units : List Nat) :
    joinHalves (highHalf c.toNat :: lowHalf c.toNat :: units) = c :: joinHalves units := by
  have bound := toNat_lt c
  have high : isHighHalf (highHalf c.toNat) = true := by
    simp only [isHighHalf, highHalf, Bool.and_eq_true]
    exact ⟨decide_eq_true (by omega), decide_eq_true (by omega)⟩
  have low : isLowHalf (lowHalf c.toNat) = true := by
    simp only [isLowHalf, lowHalf, Bool.and_eq_true]
    exact ⟨decide_eq_true (by omega), decide_eq_true (by omega)⟩
  have number : 0x10000 + (highHalf c.toNat - 0xD800) * 0x400 + (lowHalf c.toNat - 0xDC00) = c.toNat := by
    unfold highHalf lowHalf
    omega
  rw [joinHalves, high, low, number, Char.ofNat_toNat]
  rfl

theorem joinHalves_charUnits (chars : List Char) : joinHalves (chars.flatMap charUnits) = chars := by
  induction chars with
  | nil => rfl
  | cons c chars ih =>
      rw [List.flatMap_cons, charUnits]
      split
      · obtain ⟨whole, same⟩ := unitChar_toNat c
        rw [List.singleton_append, joinHalves_unit whole, same, ih]
      · rename_i large
        have joined := joinHalves_halves large (chars.flatMap charUnits)
        rw [ih] at joined
        exact joined

theorem readText_escaped (chars rest : List Char) :
    readText (chars.flatMap escapedChar ++ '"' :: rest) = .ok (chars, rest) := by
  rw [readText, readUnits_escaped]
  exact congrArg (fun chars => Except.ok (chars, rest)) (joinHalves_charUnits chars)

end Triage.Json
