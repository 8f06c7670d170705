import Triage.Proofs.Source.Rules
import Triage.Proofs.Source.Strict

namespace Triage

namespace Expr
open Triage.Text

structure WellFormed (name : List Char) (negated : Bool) : Prop where
  filled : name ≠ []
  trimmed : trim name = name
  oneLine : '\n' ∉ name
  single : ¬HasConnective name
  bare : negated = false → ¬HasNot name ∧ ¬IsGroup name

theorem readCondition_wellFormed (trimmed : trim text = text) (oneLine : '\n' ∉ text)
    (single : ¬HasConnective text) (loose : ¬IsGroup text) (accepted : readCondition text = .ok condition) :
    ∃ name, condition.statement = Datum.ofChars name ∧ WellFormed name condition.negated := by
  cases readCondition_reads accepted with
  | bare bare filled =>
      rw [trimmed] at filled ⊢
      exact ⟨text, rfl, filled, trimmed, oneLine, single, fun _ => ⟨bare, loose⟩⟩
  | @negated before word after whole isNot filled =>
      refine ⟨_, rfl, filled, trim_trim _, fun member => oneLine ?_, fun has => single ?_, by simp⟩
      · rw [whole.parts]
        rcases List.mem_append.mp (mem_trim member) with inFront | inBack
        · simp [inFront]
        · simp [inBack]
      · exact hasConnective_without whole isNot (hasConnective_trim has)

theorem read_wellFormed (oneLine : '\n' ∉ text) (accepted : read text = .ok e) : EveryLeaf WellFormed e := by
  refine readTrimmed_every (fun text => trim text = text ∧ '\n' ∉ text) ?_ ?_ ?_
    ⟨trim_trim _, fun member => oneLine (mem_trim member)⟩ accepted
  · rintro text inside ⟨_, oneLine⟩ wrapped
    refine ⟨trim_trim _, fun member => oneLine ?_⟩
    rw [unwrap?_parts wrapped]
    simp [mem_trim member]
  · rintro text left op right ⟨_, oneLine⟩ cut
    have parts := (split?_parts cut).1.parts
    refine ⟨⟨trim_trim _, fun member => oneLine ?_⟩, ⟨trim_trim _, fun member => oneLine ?_⟩⟩
    · rw [parts]
      simp [mem_trim member]
    · rw [parts]
      simp [mem_trim member]
  · rintro text condition ⟨trimmed, oneLine⟩ loose uncut found
    exact readCondition_wellFormed trimmed oneLine (split?_eq_none.mp uncut) (unwrap?_eq_none.mp loose) found

end Expr

open Triage.Text

structure Declaration.Part (text : List Char) : Prop where
  trimmed : trim text = text
  oneLine : '\n' ∉ text
  unequal : '=' ∉ text

structure Declaration.WellFormed (declaration : Declaration) : Prop where
  name : ∃ text, declaration.name = Datum.ofChars text ∧ Part text
  value : ∃ text, declaration.value = Datum.ofChars text ∧ Part text

structure Rule.WellFormed (rule : Rule) : Prop where
  leaves : Expr.EveryLeaf Expr.WellFormed rule.expression
  result : ∃ word, rule.result = Datum.ofChars word ∧ Lettered word

namespace Source

theorem readDeclaration_wellFormed (oneLine : '\n' ∉ text)
    (accepted : readDeclaration part line text = .ok declaration) : declaration.WellFormed := by
  unfold readDeclaration at accepted
  split at accepted
  · rename_i name value pieces
    cases accepted
    have each : ∀ piece ∈ [name, value], Declaration.Part (trim piece) := by
      intro piece member
      rw [← pieces] at member
      have inside := mem_splitAt member
      refine ⟨trim_trim _, fun newline => ?_, fun equals => ?_⟩
      · exact oneLine (inside _ (mem_trim newline)).1
      · exact (inside _ (mem_trim equals)).2 rfl
    exact ⟨⟨_, rfl, each name (by simp)⟩, ⟨_, rfl, each value (by simp)⟩⟩
  · cases accepted

theorem thenResult?_lettered (found : thenResult? text = some result) : Lettered result := by
  unfold thenResult? at found
  split at found
  · simp only at found
    split at found
    · rename_i accepted
      cases found
      rw [Bool.and_eq_true] at accepted
      exact ⟨List.all_takeWhile, by simpa using accepted.2⟩
    · cases found
  · cases found

-- The search for a THEN stops at the end of the line, so that the condition is on one line.
theorem lastThen?_wellFormed (found : lastThen? text = some (condition, result)) :
    '\n' ∉ condition ∧ Lettered result := by
  induction text generalizing condition with
  | nil => cases found
  | cons c text ih =>
      unfold lastThen? at found
      split at found
      · obtain ⟨word, here, same⟩ := Option.map_eq_some_iff.mp found
        cases same
        exact ⟨by simp, thenResult?_lettered here⟩
      · rename_i plain
        split at found
        · rename_i inner word later
          cases found
          obtain ⟨oneLine, lettered⟩ := ih later
          exact ⟨by simp [Ne.symm plain, oneLine], lettered⟩
        · split at found
          · obtain ⟨word, here, same⟩ := Option.map_eq_some_iff.mp found
            cases same
            exact ⟨by simp, thenResult?_lettered here⟩
          · cases found

theorem afterIf?_wellFormed (found : afterIf? text = some (condition, result)) :
    '\n' ∉ condition ∧ Lettered result := by
  unfold afterIf? at found
  dsimp only at found
  split at found
  · cases found
  · split at found
    · rename_i later
      cases found
      exact lastThen?_wellFormed later
    · split at found
      · cases found
      · obtain ⟨word, here, same⟩ := Option.map_eq_some_iff.mp found
        cases same
        exact ⟨by simp, thenResult?_lettered here⟩

theorem ifThen?_wellFormed (found : ifThen? text = some (condition, result)) :
    '\n' ∉ condition ∧ Lettered result := by
  induction text with
  | nil => cases found
  | cons c text ih =>
      unfold ifThen? at found
      split at found
      · rename_i here
        cases found
        obtain ⟨rest, _, here⟩ := Option.bind_eq_some_iff.mp here
        exact afterIf?_wellFormed here
      · exact ih found

theorem readRule_wellFormed (accepted : readRule line text = .ok rule) : rule.WellFormed := by
  unfold readRule at accepted
  split at accepted
  · cases accepted
  · rename_i condition result marks
    obtain ⟨oneLine, lettered⟩ := ifThen?_wellFormed marks
    split at accepted
    · cases accepted
    · rename_i expression readable
      cases accepted
      exact ⟨Expr.read_wellFormed oneLine readable, _, rfl, lettered⟩

-- Each line that is not blank gives one value, and what holds of the value of a line holds of all.
theorem mapM_lines_wellFormed {read : List Char × Nat → Except Fault α} {property : α → Prop}
    (accepted : ((contentLines enclosed).zipIdx 1).mapM read = .ok values)
    (each : ∀ line number value, '\n' ∉ line → read (line, number) = .ok value → property value) :
    values.length = (contentLines enclosed).length ∧ ∀ value ∈ values, property value := by
  constructor
  · rw [← (mapM_eq_ok.mp accepted).length_eq, List.length_zipIdx]
  · intro value member
    obtain ⟨⟨line, number⟩, numbered, here⟩ := (mem_mapM accepted).mp member
    have among : line ∈ ((contentLines enclosed).zipIdx 1).map Prod.fst := List.mem_map_of_mem numbered
    rw [List.zipIdx_map_fst] at among
    exact each line number value (contentLines_oneLine among) here

theorem readDeclarations_wellFormed (accepted : readDeclarations enclosed part = .ok declarations) :
    declarations.length = (contentLines enclosed).length ∧ ∀ declaration ∈ declarations, declaration.WellFormed :=
  mapM_lines_wellFormed accepted fun _ _ _ oneLine here => readDeclaration_wellFormed oneLine here

theorem readRules_wellFormed (accepted : readRules enclosed = .ok rules) :
    rules.length = (contentLines enclosed).length ∧ ∀ rule ∈ rules, rule.WellFormed :=
  mapM_lines_wellFormed accepted fun _ _ _ _ here => readRule_wellFormed here

variable {p : Program}

theorem read_of_readAs (accepted : readAs strict text = .ok p) : read text = .ok p := by
  cases strict with
  | false => exact readAs_loose_eq_ok.mp accepted
  | true => exact readAs_loose_eq_ok.mp (readAs_strict_eq_ok.mp accepted).1

-- A program that is read, strictly or not, has as many declarations and rules as its sections have
-- lines that are not blank. Its names and values are trimmed, on one line and without an equals sign;
-- its results are words; and at the leaves of its rules stand trimmed texts that are not empty, hold
-- no connective outside of parentheses and, where they are not negated, no NOT and no group alone.
theorem readAs_wellFormed (accepted : readAs strict text = .ok p) : ∃ found, sections text = .ok found ∧
    p.statements.length = (contentLines found.statements).length ∧
    p.results.length = (contentLines found.results).length ∧
    p.rules.length = (contentLines found.rules).length ∧
    (∀ declaration ∈ p.statements, declaration.WellFormed) ∧
    (∀ declaration ∈ p.results, declaration.WellFormed) ∧
    ∀ rule ∈ p.rules, rule.WellFormed := by
  obtain ⟨found, whole, statements, results, rules⟩ := read_eq_ok.mp (read_of_readAs accepted)
  obtain ⟨statementLines, statements⟩ := readDeclarations_wellFormed statements
  obtain ⟨resultLines, results⟩ := readDeclarations_wellFormed results
  obtain ⟨ruleLines, rules⟩ := readRules_wellFormed rules
  exact ⟨found, whole, statementLines, resultLines, ruleLines, statements, results, rules⟩

def mismatched : List Char :=
  ("stmt\n\n b) AND (c = Is it loud?\nendstmt results r= endresults rules\n" ++
    "IF b) AND (c THEN r\n \nIF ((NOT b) AND (c)) THEN r\nendrules").toList

theorem readAs_wellFormed_mismatched :
    readAs false mismatched = .ok ⟨[⟨.text "b) AND (c", .text "Is it loud?"⟩], [⟨.text "r", .text ""⟩],
      [⟨.leaf ⟨.text "b) AND (c", false⟩, .text "r"⟩,
        ⟨.node .and (.leaf ⟨.text "b", true⟩) (.leaf ⟨.text "c", false⟩), .text "r"⟩]⟩ ∧
    ∃ found, sections mismatched = .ok found ∧ (contentLines found.rules).length = 2 := by
  have accepted : readAs false mismatched = .ok ⟨[⟨.text "b) AND (c", .text "Is it loud?"⟩],
      [⟨.text "r", .text ""⟩], [⟨.leaf ⟨.text "b) AND (c", false⟩, .text "r"⟩,
        ⟨.node .and (.leaf ⟨.text "b", true⟩) (.leaf ⟨.text "c", false⟩), .text "r"⟩]⟩ := by decide +kernel
  obtain ⟨found, whole, _, _, lines, _⟩ := readAs_wellFormed accepted
  exact ⟨accepted, found, whole, lines.symm⟩

end Source

end Triage
