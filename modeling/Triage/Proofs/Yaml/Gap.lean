import Triage.Proofs.Yaml.Cell
import Triage.Yaml.Quoted

namespace Triage.Yaml
open Triage.Text

theorem Spells.afterGap (spelled : Spells cells text) : Spells (afterGap cells) (text.dropWhile isGap) := by
  induction text generalizing cells with
  | nil =>
      obtain ⟨line, column, index, rfl⟩ := spelled
      exact ⟨line, column, index, rfl⟩
  | cons c text ih =>
      obtain ⟨cell, rest, rfl, rfl, later⟩ := Spells.cons spelled
      by_cases gap : isGap cell.char = true
      · simpa [Yaml.afterGap, gap] using ih later
      · simpa [Yaml.afterGap, gap] using spelled

-- Behind the gap at the start of the text it goes on in the same line.
def GoesOn (text : List Char) : Prop := isBreakOrEnd ((text.dropWhile isGap).headD endMark) = false

theorem goesOn_cons (solid : isBreakOrEnd c = false) (text : List Char) (later : isGap c = true → GoesOn text) :
    GoesOn (c :: text) := by
  by_cases gap : isGap c = true
  · simpa [GoesOn, gap] using later gap
  · simpa [GoesOn, gap] using solid

theorem GoesOn.peek (inner : GoesOn text) (spelled : Spells cells text) :
    isBreakOrEnd (peek (Yaml.afterGap cells)) = false := by
  rw [spelled.afterGap.peek]
  exact inner

theorem takeQuotedGap_blanks (inner : isBreakOrEnd (peek (afterGap cells)) = false) :
    takeQuotedGap cells = .ok (charsOf (cells.takeWhile fun c => isGap c.char), afterGap cells) := by
  rw [isBreakOrEnd, Bool.or_eq_false_iff, decide_eq_false_iff_not] at inner
  rw [takeQuotedGap, if_neg inner.1, inner.2]
  rfl

-- How a reader of quoted texts deals with a gap.
def PassesGaps (take : List Cell → Scanned (List Char)) : Prop :=
  ∀ c rest gap mid, isGap c.char = true ∨ isBreak c.char = true → takeQuotedGap (c :: rest) = .ok (gap, mid) →
    take (c :: rest) = (take mid).map fun (text, after) => (gap ++ text, after)

theorem PassesGaps.blank (passes : PassesGaps take) (blank : isGap c.char = true)
    (inner : isBreakOrEnd (peek (afterGap rest)) = false) (later : take rest = .ok (text, after)) :
    take (c :: rest) = .ok (c.char :: text, after) := by
  have onwards : afterGap (c :: rest) = afterGap rest := by simp [afterGap, blank]
  have here := passes c rest _ _ (.inl blank) (takeQuotedGap_blanks (by rw [onwards]; exact inner))
  rw [here, onwards]
  cases rest with
  | nil => simp [afterGap, peek, isBreakOrEnd] at inner
  | cons d more =>
      by_cases next : isGap d.char = true
      · have there := passes d more _ _ (.inl next) (takeQuotedGap_blanks inner)
        rw [later] at there
        cases read : take (afterGap (d :: more)) with
        | error failure =>
            rw [read] at there
            cases there
        | ok found =>
            rw [read] at there
            cases there
            simp [Except.map, blank, charsOf]
      · have stays : afterGap (d :: more) = d :: more := by simp [afterGap, next]
        rw [stays, later]
        simp [Except.map, blank, next, charsOf]

theorem takeEmptyLines_newLine (positive : 0 < indent) (solid : isGap d = false) (inLine : isBreak d = false)
    (spelled : Spells cells (List.replicate indent ' ' ++ d :: rest)) :
    ∃ after, takeEmptyLines cells = .ok ([], after) ∧ Spells after (d :: rest) := by
  have onwards := spelled.afterGap
  rw [List.dropWhile_append_of_pos (by simp [isGap]), List.dropWhile_cons_of_neg (by simp [solid])] at onwards
  have first : peek cells = ' ' := by
    obtain ⟨count, rfl⟩ := Nat.exists_eq_succ_of_ne_zero (Nat.pos_iff_ne_zero.mp positive)
    exact spelled.peek
  have stops : isBreak (peek (afterGap cells)) = false := by
    rw [onwards.peek]
    exact inLine
  refine ⟨afterGap cells, ?_, onwards⟩
  rw [takeEmptyLines, isDocumentEdge_other first (by decide) (by decide), stops]
  rfl

theorem takeEmptyLines_break (spelled : Spells cells ('\n' :: text)) :
    ∃ mid, Spells mid text ∧ ∀ breaks after, takeEmptyLines mid = .ok (breaks, after) →
      takeEmptyLines cells = .ok ('\n' :: breaks, after) := by
  obtain ⟨mid, taken, column⟩ := Spells.newLine spelled
  refine ⟨mid, column.spells, fun breaks after later => ?_⟩
  have first : peek cells = '\n' := spelled.peek
  have stays : afterGap cells = cells := by
    obtain ⟨cell, others, rfl, same, _⟩ := Spells.cons spelled
    simp [afterGap, same, isGap]
  rw [takeEmptyLines, isDocumentEdge_other first (by decide) (by decide), stays, first, taken]
  simp [isBreak, later]

theorem takeQuotedGap_break (spelled : Spells cells ('\n' :: text)) :
    ∃ mid, Spells mid text ∧ ∀ breaks after, takeEmptyLines mid = .ok (breaks, after) →
      takeQuotedGap cells = .ok (foldBreaks ['\n'] breaks, after) := by
  obtain ⟨mid, taken, column⟩ := Spells.newLine spelled
  refine ⟨mid, column.spells, fun breaks after later => ?_⟩
  have first : peek cells = '\n' := spelled.peek
  have stays : afterGap cells = cells := by
    obtain ⟨cell, others, rfl, same, _⟩ := Spells.cons spelled
    simp [afterGap, same, isGap]
  rw [takeQuotedGap, stays, first, if_neg (by decide), if_pos (by decide), takeFold, taken, later]

theorem PassesGaps.newLine (passes : PassesGaps take) (positive : 0 < indent) (solid : isGap d = false)
    (inLine : isBreak d = false) (spelled : Spells cells (Yaml.newLine indent ++ d :: more))
    (later : ∀ mid, Spells mid (d :: more) → ∃ after, take mid = .ok (text, after) ∧ Spells after rest) :
    ∃ after, take cells = .ok (' ' :: text, after) ∧ Spells after rest := by
  obtain ⟨first, _, rfl, start, _⟩ := Spells.cons spelled
  obtain ⟨mid, onwards, gap⟩ := takeQuotedGap_break spelled
  obtain ⟨behind, taken, onwards⟩ := takeEmptyLines_newLine positive solid inLine onwards
  have whole := passes _ _ _ _ (.inr (by rw [start]; rfl)) (gap _ _ taken)
  obtain ⟨after, read, spelled⟩ := later behind onwards
  rw [read] at whole
  exact ⟨after, whole, spelled⟩

theorem loneSpace_parts (alone : loneSpace afterSpace (c :: text) = true) :
    c = ' ' ∧ afterSpace = false ∧ ∃ d more, text = d :: more ∧ d ≠ ' ' := by
  unfold loneSpace at alone
  split at alone
  · rename_i d more parts
    cases parts
    simp only [Bool.and_eq_true, Bool.not_eq_true', bne_iff_ne] at alone
    exact ⟨rfl, alone.1, d, more, rfl, alone.2⟩
  · cases alone

end Triage.Yaml
