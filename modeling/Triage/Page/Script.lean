import Triage.Selection
import Triage.Document

namespace Triage.Page

def property (d : Datum) (name : String) : Datum :=
  match d with
  | .object fields => (Datum.field? fields name).getD .null
  | _ => .null

def formAnswer (answers : Answers) (name : Datum) : Datum :=
  match name with
  | .text s => ((answers.find? fun (other, _) => other == s).map Prod.snd).getD .null
  | _ => .null

def conditionHolds (answers : Answers) (condition : Datum) : Bool :=
  let answer := formAnswer answers (property condition "variable")
  if (property condition "negated").truth then answer == .text "no" else answer == .text "yes"

def expressionHolds (answers : Answers) (expression : Datum) : Bool :=
  match expression with
  | .object fields =>
      if Datum.field? fields "type" = some (.text "condition") then
        conditionHolds answers (property expression "condition")
      else if Datum.field? fields "type" = some (.text "logical") then
        let left := match _left : Datum.field? fields "left" with
          | some l => expressionHolds answers l
          | none => false
        let right := match _right : Datum.field? fields "right" with
          | some r => expressionHolds answers r
          | none => false
        if Datum.field? fields "operator" = some (.text "AND") then left && right else left || right
      else false
  | _ => false
termination_by sizeOf expression
decreasing_by
  · exact Document.sizeOf_field _left
  · exact Document.sizeOf_field _right

-- The outcome after the rules from left to right, null where nothing was selected.
def submit (rules results : List Datum) (answers : Answers) : Datum :=
  rules.foldl (fun outcome rule =>
    if expressionHolds answers (property rule "expression") then
      match results.find? fun result => property result "name" == property rule "result" with
      | some result => property result "value"
      | none => outcome
    else outcome) .null

end Triage.Page
