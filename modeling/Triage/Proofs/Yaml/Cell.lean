import Triage.Yaml.Plain
import Triage.Yaml.Scalar

namespace Triage.Yaml
open Triage.Text

-- The cells are those of the text and of the end mark behind it.
def Spells (cells : List Cell) (text : List Char) : Prop :=
  ∃ line column index, cells = cellsFrom line column index text

def SpellsAt (column : Nat) (cells : List Cell) (text : List Char) : Prop :=
  ∃ line index, cells = cellsFrom line column index text

theorem SpellsAt.spells (spelled : SpellsAt column cells text) : Spells cells text := by
  obtain ⟨line, index, rfl⟩ := spelled
  exact ⟨line, column, index, rfl⟩

theorem cellsFrom_cons (line column index : Nat) (c : Char) (text : List Char) :
    ∃ rest, cellsFrom line column index (c :: text) = ⟨c, line, column, index⟩ :: rest ∧ Spells rest text := by
  rw [cellsFrom]
  split
  · exact ⟨_, rfl, _, _, _, rfl⟩
  · split
    · exact ⟨_, rfl, _, _, _, rfl⟩
    · exact ⟨_, rfl, _, _, _, rfl⟩

theorem Spells.cons (spelled : Spells cells (c :: text)) :
    ∃ cell rest, cells = cell :: rest ∧ cell.char = c ∧ Spells rest text := by
  obtain ⟨line, column, index, rfl⟩ := spelled
  obtain ⟨rest, parts, later⟩ := cellsFrom_cons line column index c text
  exact ⟨_, rest, parts, rfl, later⟩

theorem Spells.append (spelled : Spells cells (front ++ back)) :
    ∃ first rest, cells = first ++ rest ∧ charsOf first = front ∧ Spells rest back := by
  induction front generalizing cells with
  | nil => exact ⟨[], cells, rfl, rfl, spelled⟩
  | cons c front ih =>
      obtain ⟨cell, rest, rfl, rfl, later⟩ := Spells.cons spelled
      obtain ⟨first, rest, rfl, same, back⟩ := ih later
      exact ⟨cell :: first, rest, rfl, by rw [← same]; rfl, back⟩

theorem Spells.peek (spelled : Spells cells text) : peek cells = text.headD endMark := by
  obtain ⟨line, column, index, rfl⟩ := spelled
  cases text with
  | nil => rfl
  | cons c text =>
      obtain ⟨rest, parts, _⟩ := cellsFrom_cons line column index c text
      rw [parts]
      rfl

theorem Spells.length (spelled : Spells cells text) : cells.length = text.length + 1 := by
  induction text generalizing cells with
  | nil =>
      obtain ⟨line, column, index, rfl⟩ := spelled
      rfl
  | cons c text ih =>
      obtain ⟨cell, rest, rfl, _, later⟩ := Spells.cons spelled
      rw [List.length_cons, List.length_cons, ih later]

theorem SpellsAt.stands (spelled : SpellsAt column cells text) : columnOf cells = column := by
  obtain ⟨line, index, rfl⟩ := spelled
  cases text with
  | nil => rfl
  | cons c text =>
      obtain ⟨rest, parts, _⟩ := cellsFrom_cons line column index c text
      rw [parts]
      rfl

def isSteady (c : Char) : Bool := !isBreak c && c != byteOrderMark

theorem cellsFrom_steady (steady : isSteady c = true) (line column index : Nat) (text : List Char) :
    cellsFrom line column index (c :: text) =
      ⟨c, line, column, index⟩ :: cellsFrom line (column + 1) (index + 1) text := by
  simp only [isSteady, Bool.and_eq_true, Bool.not_eq_true', bne_iff_ne] at steady
  rw [cellsFrom, steady.1, if_neg (by simp), if_neg steady.2]

theorem SpellsAt.cons (spelled : SpellsAt column cells (c :: text)) (steady : isSteady c = true) :
    ∃ cell rest, cells = cell :: rest ∧ cell.char = c ∧ cell.column = column ∧ SpellsAt (column + 1) rest text := by
  obtain ⟨line, index, rfl⟩ := spelled
  rw [cellsFrom_steady steady]
  exact ⟨_, _, rfl, rfl, rfl, line, index + 1, rfl⟩

theorem SpellsAt.spaces (spelled : SpellsAt column cells (List.replicate count ' ' ++ text)) :
    ∃ first rest, cells = first ++ rest ∧ charsOf first = List.replicate count ' ' ∧
      SpellsAt (column + count) rest text := by
  induction count generalizing column cells with
  | zero => exact ⟨[], cells, rfl, rfl, spelled⟩
  | succ count ih =>
      obtain ⟨cell, rest, rfl, char, _, later⟩ := SpellsAt.cons spelled (by decide)
      obtain ⟨first, rest, rfl, same, spelled⟩ := ih later
      refine ⟨cell :: first, rest, rfl, ?_, by rwa [Nat.add_right_comm, Nat.add_assoc] at spelled⟩
      rw [List.replicate_succ, ← same, ← char]
      rfl

theorem Spells.newLine (spelled : Spells cells ('\n' :: text)) :
    ∃ rest, takeBreak cells = (['\n'], rest) ∧ SpellsAt 0 rest text := by
  obtain ⟨line, column, index, rfl⟩ := spelled
  exact ⟨cellsFrom (line + 1) 0 (index + 1) text, rfl, line + 1, index + 1, rfl⟩

theorem isBreakOrEnd_visible (visible : 0x20 ≤ c.toNat ∧ c.toNat ≤ 0x7E) : isBreakOrEnd c = false := by
  cases found : isBreakOrEnd c with
  | false => rfl
  | true =>
      simp only [isBreakOrEnd, isBreak, Bool.or_eq_true, decide_eq_true_eq] at found
      rcases found with rfl | (((rfl | rfl) | rfl) | rfl) | rfl <;> revert visible <;> decide

theorem isGap_visible (visible : 0x20 ≤ c.toNat ∧ c.toNat ≤ 0x7E) (other : c ≠ ' ') : isGap c = false := by
  cases found : isGap c with
  | false => rfl
  | true =>
      simp only [isGap, Bool.or_eq_true, decide_eq_true_eq] at found
      rcases found with rfl | rfl
      · exact absurd rfl other
      · revert visible
        decide

theorem isBlankCell_visible (visible : 0x20 ≤ c.toNat ∧ c.toNat ≤ 0x7E) (other : c ≠ ' ') : isBlankCell c = false := by
  have gap := isGap_visible visible other
  have inLine := isBreakOrEnd_visible visible
  rw [isGap, Bool.or_eq_false_iff] at gap
  rw [isBlankCell, isSpaceOrBreak, gap.1, gap.2, inLine]
  rfl

theorem isSteady_visible (visible : 0x20 ≤ c.toNat ∧ c.toNat ≤ 0x7E) : isSteady c = true := by
  have inLine := (Bool.or_eq_false_iff.mp (isBreakOrEnd_visible visible)).2
  have unmarked : c ≠ byteOrderMark := by
    rintro rfl
    revert visible
    decide
  simp [isSteady, inLine, unmarked]

theorem isDocumentMark_other (first : peek cells = c) (other : c ≠ mark) : isDocumentMark mark cells = false := by
  cases cells with
  | nil => rfl
  | cons cell cells =>
      have unlike : cell.char ≠ mark := by
        rw [← first] at other
        exact other
      simp [isDocumentMark, charsOf, unlike]

theorem isDocumentEdge_other (first : peek cells = c) (dash : c ≠ '-') (dot : c ≠ '.') :
    isDocumentEdge cells = false := by
  rw [isDocumentEdge, isDocumentMark_other first dash, isDocumentMark_other first dot]
  rfl

end Triage.Yaml
