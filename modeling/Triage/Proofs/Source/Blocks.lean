import Triage.Proofs.Source.Faults

namespace Triage

def Location.moved (shift : Nat) (place : Location) : Location :=
  { place with line := place.line.map (· + (shift : Int)) }

namespace Fault

def moved (shift : Nat) : Fault → Fault
  | .malformedDeclaration part line text => .malformedDeclaration part (line + shift) text
  | .malformedRule line text => .malformedRule (line + shift) text
  | .undeclaredStatement line statement => .undeclaredStatement (line + shift) statement
  | .undeclaredResult line result => .undeclaredResult (line + shift) result
  | .inRule line text cause => .inRule (line + shift) text cause
  | .inSource cause => .inSource (cause.moved shift)
  | .missingSection part => .missingSection part
  | .emptyCondition text => .emptyCondition text
  | .missingOperand text => .missingOperand text

theorem kind_moved (shift : Nat) (fault : Fault) : (fault.moved shift).kind = fault.kind := by
  induction fault with
  | inSource cause ih => exact ih
  | _ => rfl

theorem location_moved (shift : Nat) (fault : Fault) :
    (fault.moved shift).location = fault.location.moved shift := by
  induction fault with
  | inSource cause ih => exact ih
  | _ => rfl

structure Below (shift : Nat) (fault other : Fault) : Prop where
  kind : other.kind = fault.kind
  text : other.location.text = fault.location.text
  part : other.location.part = fault.location.part
  line : ∃ number, fault.location.line = some number ∧ other.location.line = some (number + shift)

theorem below_moved {fault : Fault} (placed : fault.location.line = some number) (shift : Nat) :
    Below shift fault (fault.moved shift) := by
  have place := location_moved shift fault
  refine ⟨kind_moved shift fault, by rw [place]; rfl, by rw [place]; rfl, number, placed, ?_⟩
  rw [place, Location.moved, placed, Option.map_some]

end Fault

namespace Source
open Triage.Text

-- A reader of lines for which the number of a line is nothing but the place of its fault.
structure Numbered (read : List Char → Nat → Except Fault α) : Prop where
  moves : ∀ text number shift, read text (number + shift) = (read text number).mapError (Fault.moved shift)
  placed : ∀ {text number fault}, read text number = .error fault → fault.location.line = some (number : Int)

def readBlock (read : List Char → Nat → Except Fault α) (enclosed : List Char) : Except Fault (List α) :=
  ((contentLines enclosed).zipIdx 1).mapM fun (text, number) => read text number

namespace Numbered

variable {read : List Char → Nat → Except Fault α}

-- Lines that are counted from further down give the same values, and faults further down.
theorem mapM_moved (numbered : Numbered read) (lines : List (List Char)) (start shift : Nat) :
    ((lines.zipIdx (start + shift)).mapM fun (text, number) => read text number) =
      ((lines.zipIdx start).mapM fun (text, number) => read text number).mapError (Fault.moved shift) := by
  induction lines generalizing start with
  | nil => rfl
  | cons line lines ih =>
      simp only [List.zipIdx_cons, List.mapM_cons, numbered.moves, Nat.add_right_comm start shift 1, ih]
      cases read line start with
      | error fault => rfl
      | ok value =>
          cases (lines.zipIdx (start + 1)).mapM fun (text, number) => read text number with
          | error fault => rfl
          | ok values => rfl

theorem readBlock_break (numbered : Numbered read) (front back : List Char) :
    readBlock read (front ++ '\n' :: back) = do
      let earlier ← readBlock read front
      let later ← (readBlock read back).mapError (Fault.moved (contentLines front).length)
      return earlier ++ later := by
  rw [readBlock, contentLines_break, List.zipIdx_append, List.mapM_append, numbered.mapM_moved]
  rfl

theorem readBlock_placed (numbered : Numbered read) (failed : readBlock read enclosed = .error fault) :
    ∃ number, fault.location.line = some number := by
  obtain ⟨_, _, _, _, _, here⟩ := mapM_numbered_eq_error.mp failed
  exact ⟨_, numbered.placed here⟩

end Numbered

structure LineByLine (read : List Char → Except Fault (List α)) : Prop where
  both : ∀ {front back earlier later}, read front = .ok earlier → read back = .ok later →
    read (front ++ '\n' :: back) = .ok (earlier ++ later)
  first : ∀ {front fault} back, read front = .error fault → read (front ++ '\n' :: back) = .error fault
  second : ∀ {front back earlier fault}, read front = .ok earlier → read back = .error fault →
    ∃ other, read (front ++ '\n' :: back) = .error other ∧ fault.Below (contentLines front).length other

theorem Numbered.lineByLine {read : List Char → Nat → Except Fault α} (numbered : Numbered read) :
    LineByLine (readBlock read) where
  both := by
    intro front back earlier later accepted here
    rw [numbered.readBlock_break, accepted, here]
    rfl
  first := by
    intro front fault back failed
    rw [numbered.readBlock_break, failed]
    rfl
  second := by
    intro front back earlier fault accepted failed
    obtain ⟨number, placed⟩ := numbered.readBlock_placed failed
    refine ⟨fault.moved (contentLines front).length, ?_, Fault.below_moved placed _⟩
    rw [numbered.readBlock_break, accepted, failed]
    rfl

theorem numbered_declaration (part : List Char) : Numbered fun text number => readDeclaration part number text where
  moves := by
    intro text number shift
    by_cases single : text.count '=' = 1
    · obtain ⟨declaration, accepted⟩ := readDeclaration_single single part
      rw [accepted, accepted]
      rfl
    · rw [readDeclaration_uneven single, readDeclaration_uneven single]
      rfl
  placed := by
    intro text number fault failed
    obtain ⟨_, rfl⟩ := readDeclaration_eq_error.mp failed
    rfl

theorem numbered_rule : Numbered fun text number => readRule number text where
  moves := by
    intro text number shift
    rw [Nat.cast_add, readRule, readRule]
    cases ifThen? text with
    | none => rfl
    | some marks =>
        obtain ⟨condition, result⟩ := marks
        cases outcome : Expr.read condition with
        | error fault =>
            simp only [outcome]
            rfl
        | ok expression =>
            simp only [outcome]
            rfl
  placed := by
    intro text number fault failed
    rcases readRule_eq_error.mp failed with ⟨_, rfl⟩ | ⟨_, _, _, _, _, rfl⟩
    · rfl
    · rfl

theorem readDeclarations_readable : (∃ declarations, readDeclarations enclosed part = .ok declarations) ↔
    ∀ line ∈ contentLines enclosed, line.count '=' = 1 := by
  rw [readDeclarations, mapM_readable]
  exact forall_numbered (fun line _ number => readDeclaration_readable) 1

-- Blocks of declarations and blocks of rules are read line by line, and a block of declarations can be
-- read exactly when each of its lines that are not blank has one equals sign.
theorem blocks_lineByLine :
    (∀ part, LineByLine fun enclosed => readDeclarations enclosed part) ∧ LineByLine readRules ∧
      ∀ enclosed part, (∃ declarations, readDeclarations enclosed part = .ok declarations) ↔
        ∀ line ∈ contentLines enclosed, line.count '=' = 1 :=
  ⟨fun part => (numbered_declaration part).lineByLine, numbered_rule.lineByLine,
    fun _ _ => readDeclarations_readable⟩

def twoRules : List Char := "IF a THEN r\n \t\nIF NOT b THEN s\n".toList

theorem blocks_lineByLine_seams :
    (∃ rules, readRules twoRules = .ok rules) ∧
    (∃ fault, readRules (twoRules ++ '\n' :: "\n\nIF c\nIF d THEN r".toList) = .error fault ∧
      fault.kind = .malformedRule ∧ fault.location.line = some 3) ∧
    (∃ fault, readRules (twoRules ++ '\n' :: "IF c THEN r\n\nIF NOT THEN s".toList) = .error fault ∧
      fault.kind = .invalidCondition ∧ fault.location.line = some 4) ∧
    ∃ fault, readRules (twoRules ++ '\n' :: "\u2003\nIF c OR THEN r".toList) = .error fault ∧
      fault.kind = .invalidLogicalExpression ∧ fault.location.line = some 3 := by
  obtain ⟨rules, accepted⟩ : ∃ rules, readRules twoRules = .ok rules :=
    ⟨[⟨.leaf ⟨Datum.ofChars "a".toList, false⟩, Datum.ofChars "r".toList⟩,
      ⟨.leaf ⟨Datum.ofChars "b".toList, true⟩, Datum.ofChars "s".toList⟩], by decide +kernel⟩
  have lines : (contentLines twoRules).length = 2 := by decide
  have behind {back : List Char} {fault : Fault} {number : Int} (failed : readRules back = .error fault)
      (placed : fault.location.line = some number) : ∃ other, readRules (twoRules ++ '\n' :: back) = .error other ∧
        other.kind = fault.kind ∧ other.location.line = some (number + 2) := by
    obtain ⟨other, here, below⟩ := blocks_lineByLine.2.1.second accepted failed
    obtain ⟨_, same, line⟩ := below.line
    cases placed.symm.trans same
    exact ⟨other, here, below.kind, by rw [line, lines]; rfl⟩
  have unmarked : readRules "\n\nIF c\nIF d THEN r".toList = .error (.malformedRule 1 "IF c".toList) := by
    decide +kernel
  have unnamed : readRules "IF c THEN r\n\nIF NOT THEN s".toList =
      .error (.inRule 2 "IF NOT THEN s".toList (.emptyCondition "NOT".toList)) := by decide +kernel
  have halved : readRules "\u2003\nIF c OR THEN r".toList =
      .error (.inRule 1 "IF c OR THEN r".toList (.missingOperand "c OR".toList)) := by decide +kernel
  exact ⟨⟨rules, accepted⟩, behind unmarked rfl, behind unnamed rfl, behind halved rfl⟩

end Source

end Triage
