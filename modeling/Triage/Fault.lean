import Triage.Datum.Display

namespace Triage

inductive Section where
  | statements
  | results
  | rules
  deriving DecidableEq, Repr

namespace Section

-- The order in which sections are looked for and read.
def all : List Section := [.statements, .results, .rules]

def name : Section → String
  | .statements => "stmt"
  | .results => "results"
  | .rules => "rules"

def opening (s : Section) : List Char := s.name.toList

def closing (s : Section) : List Char := "end".toList ++ s.opening

end Section

structure Location where
  line : Option Int
  text : Option (List Char)
  part : Option (List Char)
  deriving DecidableEq, Repr

def Location.nowhere : Location := ⟨none, none, none⟩

inductive FaultKind where
  | general
  | missingSection
  | malformedDeclaration
  | malformedRule
  | invalidCondition
  | invalidLogicalExpression
  | danglingReference
  deriving DecidableEq, Repr

inductive Fault where
  | missingSection (part : Section)
  | malformedDeclaration (part : List Char) (line : Nat) (text : List Char)
  | malformedRule (line : Int) (text : List Char)
  | emptyCondition (text : List Char)
  | missingOperand (text : List Char)
  | undeclaredStatement (line : Nat) (statement : Datum)
  | undeclaredResult (line : Nat) (result : Datum)
  | inRule (line : Int) (text : List Char) (cause : Fault)
  | inSource (cause : Fault)
  deriving DecidableEq, Repr

namespace Fault

def kind : Fault → FaultKind
  | .missingSection _ => .missingSection
  | .malformedDeclaration _ _ _ => .malformedDeclaration
  | .malformedRule _ _ => .malformedRule
  | .emptyCondition _ => .invalidCondition
  | .missingOperand _ => .invalidLogicalExpression
  | .undeclaredStatement _ _ | .undeclaredResult _ _ => .danglingReference
  | .inRule _ _ cause => cause.kind
  | .inSource cause => cause.kind

def location : Fault → Location
  | .missingSection part => ⟨none, none, some part.opening⟩
  | .malformedDeclaration part line text => ⟨some line, some text, some part⟩
  | .malformedRule line text => ⟨some line, some text, some Section.rules.opening⟩
  | .emptyCondition _ | .missingOperand _ => .nowhere
  | .undeclaredStatement line _ | .undeclaredResult line _ =>
      ⟨some line, none, some Section.rules.opening⟩
  | .inRule line text _ => ⟨some line, some text, some Section.rules.opening⟩
  | .inSource cause => cause.location

def cause? : Fault → Option Fault
  | .inRule _ _ cause => some cause
  | .inSource cause => some cause
  | _ => none

def inQuotes (text : List Char) : List Char := '"' :: text ++ ['"']

def message : Fault → List Char
  | .missingSection part =>
      "Missing ".toList ++ inQuotes part.opening ++ " block. Ensure the input contains a ".toList ++
        inQuotes part.opening ++ " section.".toList
  | .malformedDeclaration part line text =>
      "Invalid variable declaration in ".toList ++ part ++ " block at line ".toList ++
        Datum.integerText line ++ ": ".toList ++ inQuotes text ++
        ". Expected format: <name> = <value>".toList
  | .malformedRule line text =>
      "Invalid rule at line ".toList ++ Datum.integerText line ++ ": ".toList ++ inQuotes text ++
        ". Expected format: \"IF <condition> THEN <result>\"".toList
  | .emptyCondition text =>
      "Invalid condition: ".toList ++ inQuotes text ++
        ". Expected format: \"NOT <variable>\" or \"<variable>\"".toList
  | .missingOperand text =>
      "Invalid logical expression: ".toList ++ inQuotes text ++
        ". Expected format: \"<expression> AND <expression>\" or \"<expression> OR <expression>\"".toList
  | .undeclaredStatement line statement =>
      "Rule at line ".toList ++ Datum.integerText line ++ " references undeclared statement ".toList ++
        inQuotes statement.display
  | .undeclaredResult line result =>
      "Rule at line ".toList ++ Datum.integerText line ++ " references undeclared result ".toList ++
        inQuotes result.display
  | .inRule line text cause =>
      "Error in rule at line ".toList ++ Datum.integerText line ++ ": ".toList ++ inQuotes text ++
        ". Details: ".toList ++ cause.message
  | .inSource cause => "Failed to parse input: ".toList ++ cause.message

end Fault

end Triage
