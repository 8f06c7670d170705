import Mathlib.Tactic.SplitIfs
import Mathlib.Tactic.Tauto
import Triage.Proofs.Yaml.Gap

namespace Triage.Yaml
open Triage.Text

theorem takeSingle_passes : PassesGaps takeSingle := by
  intro c rest gap mid blank taken
  have mark : c.char ≠ '\x27' := by
    intro same
    rw [same] at blank
    revert blank
    decide
  rw [takeSingle, if_neg mark, dif_pos blank]
  split
  · rename_i found
    rw [taken] at found
    cases found
    cases takeSingle mid <;> rfl
  · rename_i found
    rw [taken] at found
    cases found

theorem takeSingle_close (close : c.char = '\x27') (alone : peek rest ≠ '\x27') :
    takeSingle (c :: rest) = .ok ([], rest) := by
  rw [takeSingle, if_pos close, if_neg alone]

theorem takeSingle_mark (first : c.char = '\x27') (second : d.char = '\x27')
    (later : takeSingle rest = .ok (text, after)) : takeSingle (c :: d :: rest) = .ok ('\x27' :: text, after) := by
  have twice : peek (d :: rest) = '\x27' := second
  rw [takeSingle, if_pos first, if_pos twice, List.drop_one, List.tail_cons, later]

theorem takeSingle_plain (mark : c.char ≠ '\x27') (solid : isGap c.char = false)
    (inLine : isBreakOrEnd c.char = false) (later : takeSingle rest = .ok (text, after)) :
    takeSingle (c :: rest) = .ok (c.char :: text, after) := by
  rw [isBreakOrEnd, Bool.or_eq_false_iff, decide_eq_false_iff_not] at inLine
  rw [takeSingle, if_neg mark, dif_neg (by simp [solid, inLine.2]), if_neg inLine.1, later]

inductive SingleStep (folds : Bool) (indent : Nat) (afterSpace : Bool) (c : Char) (text : List Char) :
    List Char → Prop where
  | newLine (same : c = '\n') :
      SingleStep folds indent afterSpace c text ('\n' :: '\n' :: writeSingle folds indent 0 false false true text)
  | fold (same : c = ' ') (alone : afterSpace = false) (solid : d ≠ ' ') (next : text = d :: more) :
      SingleStep folds indent afterSpace c text
        (Yaml.newLine indent ++ writeSingle folds indent indent false false false text)
  | mark (same : c = '\x27') (column : Nat) :
      SingleStep folds indent afterSpace c text
        ('\x27' :: '\x27' :: writeSingle folds indent column false false false text)
  | plain (inLine : c ≠ '\n') (unmarked : c ≠ '\x27') (column : Nat) :
      SingleStep folds indent afterSpace c text (c :: writeSingle folds indent column false (c == ' ') false text)

theorem writeSingle_step (folds : Bool) (indent column : Nat) (first afterSpace : Bool) (c : Char) (text : List Char) :
    SingleStep folds indent afterSpace c text (writeSingle folds indent column first afterSpace false (c :: text)) := by
  rw [writeSingle]
  by_cases newLine : c = '\n'
  · rw [if_pos newLine]
    exact .newLine newLine
  · rw [if_neg newLine]
    simp only [Bool.false_eq_true, if_false, List.nil_append]
    by_cases fold : (folds && !first && decide (foldWidth < column) && loneSpace afterSpace (c :: text)) = true
    · rw [if_pos fold]
      obtain ⟨same, alone, d, more, next, solid⟩ := loneSpace_parts (Bool.and_eq_true_iff.mp fold).2
      exact .fold same alone solid next
    · by_cases mark : c = '\x27'
      · rw [if_neg fold, if_pos mark]
        exact .mark mark _
      · rw [if_neg fold, if_neg mark]
        exact .plain newLine mark _

theorem writeSingle_afterBreak (folds : Bool) (indent column : Nat) (first afterSpace : Bool)
    (inLine : ∀ more, text ≠ '\n' :: more) :
    writeSingle folds indent column first afterSpace true text =
      List.replicate indent ' ' ++ writeSingle folds indent indent first afterSpace false text := by
  cases text with
  | nil => simp [writeSingle]
  | cons c text =>
      have other : c ≠ '\n' := by
        rintro rfl
        exact inLine text rfl
      rw [writeSingle, writeSingle, if_neg other, if_neg other]
      simp only [if_true, Bool.false_eq_true, if_false, List.nil_append]
      split_ifs
      · rw [List.append_assoc]
      · rfl
      · rfl

theorem isSingle_iff : isSingle text = true ↔ (∀ c ∈ text, isSpecial c = false) ∧ spaceMeetsBreak text = false := by
  simp [isSingle]

theorem isSingle_tail (single : isSingle (c :: text) = true) : isSingle text = true := by
  obtain ⟨plain, apart⟩ := isSingle_iff.mp single
  refine isSingle_iff.mpr ⟨(List.forall_mem_cons.mp plain).2, ?_⟩
  cases text with
  | nil => rfl
  | cons d text => exact (Bool.or_eq_false_iff.mp apart).2

theorem isSingle_append (single : isSingle (front ++ back) = true) : isSingle back = true := by
  induction front with
  | nil => exact single
  | cons c front ih => exact ih (isSingle_tail single)

theorem isSingle_visible (single : isSingle (c :: text) = true) (inLine : c ≠ '\n') :
    0x20 ≤ c.toNat ∧ c.toNat ≤ 0x7E := by
  have plain := (List.forall_mem_cons.mp (isSingle_iff.mp single).1).1
  simpa [isSpecial, inLine] using plain

-- A space and a line break do not stand side by side.
theorem isSingle_apart (single : isSingle (c :: d :: text) = true) :
    ¬(c = ' ' ∧ d = '\n') ∧ ¬(c = '\n' ∧ d = ' ') := by
  have apart := (isSingle_iff.mp single).2
  simp only [spaceMeetsBreak, Bool.or_eq_false_iff, Bool.and_eq_false_iff, beq_eq_false_iff_ne] at apart
  exact ⟨by tauto, by tauto⟩

theorem goesOn_writeSingle (folds : Bool) (indent column : Nat) (first : Bool) (rest : List Char)
    (single : isSingle (' ' :: text) = true) :
    GoesOn (writeSingle folds indent column first true false text ++ '\x27' :: rest) := by
  induction text generalizing column first with
  | nil => exact goesOn_cons (by decide) rest fun gap => absurd gap (by decide)
  | cons c text ih =>
      have step := writeSingle_step folds indent column first true c text
      generalize writeSingle folds indent column first true false (c :: text) = written at step
      cases step with
      | newLine same => exact absurd ⟨rfl, same⟩ (isSingle_apart single).1
      | fold same alone => cases alone
      | mark => exact goesOn_cons (by decide) _ fun gap => absurd gap (by decide)
      | plain inLine unmarked column =>
          have visible := isSingle_visible (isSingle_tail single) inLine
          refine goesOn_cons (isBreakOrEnd_visible visible) _ fun gap => ?_
          by_cases space : c = ' '
          · subst space
            exact ih column false (isSingle_tail single)
          · rw [isGap_visible visible space] at gap
            cases gap

theorem writeSingle_solid (folds : Bool) (indent column : Nat) (first afterSpace : Bool) (rest : List Char)
    (single : isSingle text = true) (solid : ∀ more, text ≠ ' ' :: more) (inLine : ∀ more, text ≠ '\n' :: more) :
    ∃ d more, writeSingle folds indent column first afterSpace false text ++ '\x27' :: rest = d :: more ∧
      isGap d = false ∧ isBreak d = false := by
  cases text with
  | nil => exact ⟨'\x27', rest, rfl, by decide, by decide⟩
  | cons c text =>
      have step := writeSingle_step folds indent column first afterSpace c text
      generalize writeSingle folds indent column first afterSpace false (c :: text) = written at step
      cases step with
      | newLine same => exact absurd (by rw [same]) (inLine text)
      | fold same => exact absurd (by rw [same]) (solid text)
      | mark => exact ⟨'\x27', _, rfl, by decide, by decide⟩
      | plain other _ column =>
          have visible := isSingle_visible single other
          have space : c ≠ ' ' := by
            rintro rfl
            exact solid text rfl
          exact ⟨c, _, rfl, isGap_visible visible space, (Bool.or_eq_false_iff.mp (isBreakOrEnd_visible visible)).2⟩

-- A run of line breaks, from its second one on: all of it is taken, with the indentation behind it.
theorem takeEmptyLines_writeSingle (positive : 0 < indent) (single : isSingle ('\n' :: text) = true)
    (spelled : Spells cells (writeSingle folds indent 0 false false true text ++ '\x27' :: rest)) :
    ∃ breaks behind after, text = breaks ++ behind ∧ takeEmptyLines cells = .ok (breaks, after) ∧
      Spells after (writeSingle folds indent indent false false false behind ++ '\x27' :: rest) := by
  induction text generalizing cells with
  | nil =>
      obtain ⟨after, taken, later⟩ := takeEmptyLines_newLine positive (by decide) (by decide) spelled
      exact ⟨[], [], after, rfl, taken, later⟩
  | cons c text ih =>
      by_cases newLine : c = '\n'
      · subst newLine
        obtain ⟨mid, onwards, passed⟩ := takeEmptyLines_break spelled
        obtain ⟨breaks, behind, after, rfl, taken, later⟩ := ih (isSingle_tail single) onwards
        exact ⟨'\n' :: breaks, behind, after, rfl, passed breaks after taken, later⟩
      · have inLine : ∀ others, c :: text ≠ '\n' :: others := by simp [newLine]
        have solid : ∀ others, c :: text ≠ ' ' :: others := by
          rintro others ⟨⟩
          exact (isSingle_apart single).2 ⟨rfl, rfl⟩
        obtain ⟨d, others, starts, blank, stays⟩ :=
          writeSingle_solid folds indent indent false false rest (isSingle_tail single) solid inLine
        rw [writeSingle_afterBreak folds indent 0 false false inLine, List.append_assoc, starts] at spelled
        obtain ⟨after, taken, later⟩ := takeEmptyLines_newLine positive blank stays spelled
        exact ⟨[], c :: text, after, rfl, taken, by rw [starts]; exact later⟩

theorem readsSingle (folds : Bool) (positive : 0 < indent) (text : List Char) (single : isSingle text = true)
    (column : Nat) (first afterSpace : Bool) (alone : rest.headD endMark ≠ '\x27')
    (spelled : Spells cells (writeSingle folds indent column first afterSpace false text ++ '\x27' :: rest)) :
    ∃ after, takeSingle cells = .ok (text, after) ∧ Spells after rest := by
  match text with
  | [] =>
      obtain ⟨cell, after, rfl, close, later⟩ := Spells.cons spelled
      exact ⟨after, takeSingle_close close (by rw [later.peek]; exact alone), later⟩
  | c :: text =>
      have tail := isSingle_tail single
      have step := writeSingle_step folds indent column first afterSpace c text
      generalize writeSingle folds indent column first afterSpace false (c :: text) = written at step spelled
      cases step with
      | newLine same =>
          subst same
          obtain ⟨gapStart, _, rfl, start, _⟩ := Spells.cons spelled
          obtain ⟨mid, onwards, gap⟩ := takeQuotedGap_break spelled
          obtain ⟨lines, onwards, passed⟩ := takeEmptyLines_break onwards
          obtain ⟨breaks, behind, after, rfl, taken, later⟩ := takeEmptyLines_writeSingle positive single onwards
          have whole := takeSingle_passes _ _ _ _ (.inr (by rw [start]; rfl)) (gap _ _ (passed _ _ taken))
          have inner := isSingle_append (isSingle_tail single)
          obtain ⟨last, read, later⟩ := readsSingle folds positive behind inner indent false false alone later
          rw [read] at whole
          exact ⟨last, whole, later⟩
      | fold same space solid next =>
          subst same next
          rename_i d more
          have inLine : d ≠ '\n' := fun same => (isSingle_apart single).1 ⟨rfl, same⟩
          obtain ⟨e, others, starts, blank, stays⟩ :=
            writeSingle_solid folds indent indent false false rest tail (by simp [solid]) (by simp [inLine])
          rw [List.append_assoc, starts] at spelled
          refine takeSingle_passes.newLine positive blank stays spelled fun mid onwards => ?_
          rw [← starts] at onwards
          exact readsSingle folds positive (d :: more) tail indent false false alone onwards
      | mark same column =>
          subst same
          obtain ⟨first, _, rfl, start, onwards⟩ := Spells.cons spelled
          obtain ⟨second, _, rfl, again, onwards⟩ := Spells.cons onwards
          obtain ⟨after, read, later⟩ := readsSingle folds positive text tail column false false alone onwards
          exact ⟨after, takeSingle_mark start again read, later⟩
      | plain inLine unmarked column =>
          obtain ⟨cell, others, rfl, start, onwards⟩ := Spells.cons spelled
          obtain ⟨after, read, later⟩ := readsSingle folds positive text tail column false (c == ' ') alone onwards
          have visible := isSingle_visible single inLine
          by_cases space : c = ' '
          · subst space
            have inner := (goesOn_writeSingle folds indent column false rest single).peek onwards
            have blank := takeSingle_passes.blank (by rw [start]; rfl) inner read
            rw [start] at blank
            exact ⟨after, blank, later⟩
          · subst start
            exact ⟨after, takeSingle_plain unmarked (isGap_visible visible space) (isBreakOrEnd_visible visible) read,
              later⟩
termination_by text.length

end Triage.Yaml
