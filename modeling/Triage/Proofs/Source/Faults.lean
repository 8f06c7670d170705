import Triage.Proofs.Source.Strict
import Triage.Proofs.Text.Lines

namespace Triage.Source
open Triage.Text

theorem readDeclaration_single (single : text.count '=' = 1) (part : List Char) :
    ∃ declaration, ∀ line, readDeclaration part line text = .ok declaration := by
  have two : (splitAt '=' text).length = 2 := by rw [splitAt_length, single]
  obtain ⟨name, value, parts⟩ := List.length_eq_two.mp two
  exact ⟨_, fun line => by rw [readDeclaration, parts]⟩

theorem readDeclaration_uneven (uneven : text.count '=' ≠ 1) (part : List Char) (line : Nat) :
    readDeclaration part line text = .error (.malformedDeclaration part line text) := by
  rw [readDeclaration]
  split
  · rename_i name value parts
    have two := splitAt_length '=' text
    rw [parts] at two
    simp at two
    omega
  · rfl

theorem readDeclaration_readable : (∃ declaration, readDeclaration part line text = .ok declaration) ↔
    text.count '=' = 1 := by
  constructor
  · rintro ⟨declaration, accepted⟩
    by_contra uneven
    rw [readDeclaration_uneven uneven] at accepted
    cases accepted
  · intro single
    obtain ⟨declaration, accepted⟩ := readDeclaration_single single part
    exact ⟨declaration, accepted line⟩

theorem readDeclaration_eq_error : readDeclaration part line text = .error fault ↔
    text.count '=' ≠ 1 ∧ fault = .malformedDeclaration part line text := by
  by_cases single : text.count '=' = 1
  · obtain ⟨declaration, accepted⟩ := readDeclaration_single single part
    simp [accepted line, single]
  · rw [readDeclaration_uneven single, Except.error.injEq]
    simp [single, eq_comm]

theorem readDeclarations_eq_error : readDeclarations enclosed part = .error fault ↔
    ∃ earlier text later, contentLines enclosed = earlier ++ text :: later ∧
      (∀ line ∈ earlier, line.count '=' = 1) ∧ text.count '=' ≠ 1 ∧
      fault = .malformedDeclaration part (earlier.length + 1) text := by
  rw [readDeclarations, mapM_numbered_eq_error]
  refine exists₃_congr fun earlier text later => and_congr_right fun parts => and_congr ?_ ?_
  · exact forall_numbered (fun line _ number => readDeclaration_readable) 1
  · rw [Nat.add_comm]
    exact readDeclaration_eq_error

def IsRule (text : List Char) : Prop :=
  ∃ condition result expression, ifThen? text = some (condition, result) ∧ Expr.read condition = .ok expression

theorem readRule_readable : (∃ rule, readRule line text = .ok rule) ↔ IsRule text := by
  unfold readRule IsRule
  cases ifThen? text with
  | none => simp
  | some marks =>
      obtain ⟨condition, result⟩ := marks
      cases outcome : Expr.read condition <;> simp [outcome]

theorem readRule_eq_error : readRule line text = .error fault ↔
    (ifThen? text = none ∧ fault = .malformedRule line text) ∨
      ∃ condition result inner, ifThen? text = some (condition, result) ∧ Expr.read condition = .error inner ∧
        fault = .inRule line text inner := by
  unfold readRule
  cases ifThen? text with
  | none => simp [eq_comm]
  | some marks =>
      obtain ⟨condition, result⟩ := marks
      cases outcome : Expr.read condition with
      | error inner => simp [outcome, eq_comm]
      | ok expression => simp [outcome]

theorem readRules_eq_error : readRules enclosed = .error fault ↔
    ∃ earlier text later, contentLines enclosed = earlier ++ text :: later ∧ (∀ line ∈ earlier, IsRule line) ∧
      readRule (earlier.length + 1 : Nat) text = .error fault := by
  rw [readRules, mapM_numbered_eq_error]
  refine exists₃_congr fun earlier text later => and_congr_right fun parts => and_congr ?_ ?_
  · exact forall_numbered (fun line _ number => readRule_readable) 1
  · rw [Nat.add_comm]

theorem body_fault {pieces : List (Section × List Char)} (failed : body pieces part = .error fault) :
    fault = .missingSection part := by
  unfold body at failed
  split at failed
  · cases failed
  · cases failed
    rfl

theorem sections_fault (failed : sections text = .error fault) : ∃ part, fault = .missingSection part := by
  rcases bind_eq_error.mp failed with statements | ⟨_, _, failed⟩
  · exact ⟨_, body_fault statements⟩
  · rcases bind_eq_error.mp failed with results | ⟨_, _, failed⟩
    · exact ⟨_, body_fault results⟩
    · rcases bind_eq_error.mp failed with rules | ⟨_, _, failed⟩
      · exact ⟨_, body_fault rules⟩
      · cases failed

inductive WrongDeclaration (part : Section) (enclosed : List Char) (fault : Fault) : Prop where
  | line (lines : contentLines enclosed = earlier ++ text :: later)
      (before : ∀ other ∈ earlier, other.count '=' = 1) (here : text.count '=' ≠ 1)
      (kind : fault.kind = .malformedDeclaration)
      (location : fault.location = ⟨some (earlier.length + 1 : Nat), some text, some part.opening⟩)
      (first : fault.cause? = none) : WrongDeclaration part enclosed fault

inductive WrongRule (enclosed : List Char) (fault : Fault) : Prop where
  | marks (lines : contentLines enclosed = earlier ++ text :: later) (before : ∀ other ∈ earlier, IsRule other)
      (here : ifThen? text = none) (kind : fault.kind = .malformedRule)
      (location : fault.location = ⟨some (earlier.length + 1 : Nat), some text, some Section.rules.opening⟩)
      (first : fault.cause? = none) : WrongRule enclosed fault
  | condition {inner : Fault} (lines : contentLines enclosed = earlier ++ text :: later)
      (before : ∀ other ∈ earlier, IsRule other)
      (marks : ifThen? text = some (condition, result)) (here : Expr.read condition = .error inner)
      (kind : fault.kind = .invalidCondition ∨ fault.kind = .invalidLogicalExpression)
      (location : fault.location = ⟨some (earlier.length + 1 : Nat), some text, some Section.rules.opening⟩)
      (nested : fault.cause? = some inner) (same : inner.kind = fault.kind)
      (message : fault.message = "Error in rule at line ".toList ++ Datum.integerText (earlier.length + 1 : Nat) ++
        ": ".toList ++ Fault.inQuotes text ++ ". Details: ".toList ++ inner.message)
      (innermost : inner.location = .nowhere ∧ inner.cause? = none) : WrongRule enclosed fault

inductive WrongReference (p : Program) (fault : Fault) : Prop where
  | rule {rule : Rule} (rules : p.rules = earlier ++ rule :: later) (before : ∀ other ∈ earlier, p.Sound other)
      (here : p.Dangling (earlier.length + 1) rule fault) (kind : fault.kind = .danglingReference)
      (location : fault.location = ⟨some (earlier.length + 1 : Nat), none, some Section.rules.opening⟩)
      (first : fault.cause? = none) : WrongReference p fault

-- What is wrong first with the sections of a source. Everything before it can be read.
inductive FirstFault (strict : Bool) (found : Sections) (fault : Fault) : Prop where
  | statement (here : WrongDeclaration .statements found.statements fault) : FirstFault strict found fault
  | result (statements : readDeclarations found.statements Section.statements.opening = .ok asked)
      (here : WrongDeclaration .results found.results fault) : FirstFault strict found fault
  | rule (statements : readDeclarations found.statements Section.statements.opening = .ok asked)
      (results : readDeclarations found.results Section.results.opening = .ok outcomes)
      (here : WrongRule found.rules fault) : FirstFault strict found fault
  | reference {p : Program} (only : strict = true)
      (statements : readDeclarations found.statements Section.statements.opening = .ok p.statements)
      (results : readDeclarations found.results Section.results.opening = .ok p.results)
      (rules : readRules found.rules = .ok p.rules) (here : WrongReference p fault) : FirstFault strict found fault

theorem wrongDeclaration {part : Section} (failed : readDeclarations enclosed part.opening = .error fault) :
    WrongDeclaration part enclosed fault := by
  obtain ⟨earlier, text, later, lines, before, here, rfl⟩ := readDeclarations_eq_error.mp failed
  exact .line lines before here rfl rfl rfl

theorem wrongRule (failed : readRules enclosed = .error fault) : WrongRule enclosed fault := by
  obtain ⟨earlier, text, later, lines, before, here⟩ := readRules_eq_error.mp failed
  rcases readRule_eq_error.mp here with ⟨unmarked, rfl⟩ | ⟨condition, result, inner, marks, unread, rfl⟩
  · exact .marks lines before unmarked rfl rfl rfl
  · have wrong := Expr.read_fault unread
    exact .condition lines before marks unread wrong.kind rfl rfl rfl rfl wrong.place

theorem wrongReference {p : Program} (named : p.Named) (proper : p.Proper)
    (failed : p.checkReferences = .error (.fault fault)) : WrongReference p fault := by
  obtain ⟨earlier, rule, later, rules, before, _, same, dangling⟩ :=
    (Program.checkReferences_eq_error named proper).mp failed
  cases same
  obtain ⟨kind, location, first⟩ := dangling.told
  exact .rule rules before dangling kind location first

theorem inSource_eq_error {outcome : Except Fault α} :
    inSource outcome = .error fault ↔ ∃ cause, outcome = .error cause ∧ fault = .inSource cause :=
  mapError_eq_error

theorem read_fault (failed : read text = .error fault) (strict : Bool) : sections text = .error fault ∨
    ∃ found cause, sections text = .ok found ∧ fault = .inSource cause ∧ FirstFault strict found cause := by
  rcases bind_eq_error.mp failed with missing | ⟨found, whole, failed⟩
  · exact Or.inl missing
  refine Or.inr ⟨found, ?_⟩
  rcases bind_eq_error.mp failed with inStatements | ⟨asked, statements, failed⟩
  · obtain ⟨cause, wrong, rfl⟩ := inSource_eq_error.mp inStatements
    exact ⟨cause, whole, rfl, .statement (wrongDeclaration wrong)⟩
  rw [inSource_eq_ok] at statements
  rcases bind_eq_error.mp failed with inResults | ⟨outcomes, results, failed⟩
  · obtain ⟨cause, wrong, rfl⟩ := inSource_eq_error.mp inResults
    exact ⟨cause, whole, rfl, .result statements (wrongDeclaration wrong)⟩
  rw [inSource_eq_ok] at results
  rcases bind_eq_error.mp failed with inRules | ⟨rules, _, failed⟩
  · obtain ⟨cause, wrong, rfl⟩ := inSource_eq_error.mp inRules
    exact ⟨cause, whole, rfl, .rule statements results (wrongRule wrong)⟩
  · cases failed

-- The two ways in which reading fails: a section is missing, or what is wrong first in the sections
-- is wrapped.
theorem readAs_fault {failure : Failure} (failed : readAs strict text = .error failure) :
    ∃ fault, failure = .fault fault ∧ (sections text = .error fault ∨
      ∃ found cause, sections text = .ok found ∧ fault = .inSource cause ∧ FirstFault strict found cause) := by
  cases strict with
  | false =>
      obtain ⟨fault, unread, rfl⟩ := readAs_loose_eq_error.mp failed
      exact ⟨fault, rfl, read_fault unread false⟩
  | true =>
      -- Strict reading fails as reading does, or else at the references of what was read.
      rcases readAs_strict_eq_error.mp failed with failed | ⟨p, fault, loose, checked, rfl⟩
      · obtain ⟨fault, unread, rfl⟩ := readAs_loose_eq_error.mp failed
        exact ⟨fault, rfl, read_fault unread true⟩
      · have accepted := readAs_loose_eq_ok.mp loose
        obtain ⟨named, proper⟩ := read_named accepted
        obtain ⟨found, whole, statements, results, rules⟩ := read_eq_ok.mp accepted
        exact ⟨_, rfl, Or.inr ⟨found, fault, whole, rfl,
          .reference rfl statements results rules (wrongReference named proper checked)⟩⟩

-- A reading that fails tells the first fault of the source and its place.
theorem readAs_located {failure : Failure} (failed : readAs strict text = .error failure) :
    ∃ fault, failure = .fault fault ∧
      ((∃ part : Section, sections text = .error fault ∧ fault.kind = .missingSection ∧
          fault.location = ⟨none, none, some part.opening⟩ ∧ fault.cause? = none ∧
          ¬"Failed to parse input: ".toList <+: fault.message) ∨
        ∃ found cause, sections text = .ok found ∧ fault.cause? = some cause ∧
          fault.message = "Failed to parse input: ".toList ++ cause.message ∧ fault.kind = cause.kind ∧
          fault.location = cause.location ∧ FirstFault strict found cause) := by
  obtain ⟨fault, rfl, missing | ⟨found, cause, whole, rfl, first⟩⟩ := readAs_fault failed
  · obtain ⟨part, rfl⟩ := sections_fault missing
    exact ⟨_, rfl, Or.inl ⟨part, missing, rfl, rfl, rfl, by cases part <;> decide⟩⟩
  · exact ⟨_, rfl, Or.inr ⟨found, cause, whole, rfl, rfl, rfl, rfl, first⟩⟩

def crowded : List Char :=
  ("stmt\na = Is it loud?\nendstmt results r = Replace it. endresults " ++
    "rules\nIF a THEN r\n\nIF b OR THEN s\nIF\nendrules").toList

theorem readAs_located_crowded :
    readAs true crowded = .error (.fault (.inSource
      (.inRule 2 "IF b OR THEN s".toList (.missingOperand "b OR".toList)))) ∧
    ∃ found, sections crowded = .ok found ∧
      FirstFault true found (.inRule 2 "IF b OR THEN s".toList (.missingOperand "b OR".toList)) := by
  have failed : readAs true crowded = .error (.fault (.inSource
      (.inRule 2 "IF b OR THEN s".toList (.missingOperand "b OR".toList)))) := by decide +kernel
  obtain ⟨fault, same, missing | wrapped⟩ := readAs_located failed
  · cases same
    obtain ⟨part, _, kind, _⟩ := missing
    cases kind
  · cases same
    obtain ⟨found, cause, whole, nested, _, _, _, first⟩ := wrapped
    cases nested
    exact ⟨failed, found, whole, first⟩

end Triage.Source
