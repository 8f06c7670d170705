import Triage.Program.Basic

namespace Triage

namespace Expr

def toDatum : Expr → Except Refusal Datum
  | .leaf condition =>
      .ok (.record [
        ("type", .text "condition"),
        ("condition", .record [
          ("variable", condition.statement),
          ("negated", .bool condition.negated)])])
  | .node op left right => do
      let l ← left.toDatum
      let r ← right.toDatum
      return .record [
        ("type", .text "logical"),
        ("operator", .text op.name),
        ("left", l),
        ("right", r)]
  | .foreign given => .error (.notExpression given)

end Expr

namespace Connective

def ofDatum (d : Datum) : Except Refusal Connective :=
  if d = .text Connective.and.name then .ok .and
  else if d = .text Connective.or.name then .ok .or
  else do throw (.unknownConnective (← d.checked))

end Connective

namespace Document

def fieldsOf (d : Datum) : Except Refusal (List (Datum × Datum)) :=
  match d.opened with
  | .object fields => .ok fields
  | other => .error (.notRecord other)

def require (fields : List (Datum × Datum)) (name : String) : Except Refusal Datum :=
  match Datum.field? fields name with
  | some value => .ok value
  | none => .error (.missingField name)

def readCondition (d : Datum) : Except Refusal Condition := do
  let fields ← fieldsOf d
  let statement ← require fields "variable"
  return ⟨statement, ((Datum.field? fields "negated").getD (.bool false)).truth⟩

theorem sizeOf_field (found : Datum.field? fields name = some value) :
    sizeOf value < sizeOf (Datum.object fields) := by
  unfold Datum.field? at found
  simp only [Option.map_eq_some_iff, Prod.exists, exists_eq_right] at found
  obtain ⟨key, found⟩ := found
  have bound := List.sizeOf_lt_of_mem (List.mem_of_find?_eq_some found)
  simp only [Prod.mk.sizeOf_spec] at bound
  simp only [Datum.object.sizeOf_spec]
  omega

end Document

namespace Expr
open Document

-- The expression of a datum at a place inside shared data. An expression that is part of itself has
-- no end.
def ofDatumIn (around : Datum.Surroundings) (d : Datum) : Except Refusal Expr :=
  match d with
  | .object fields =>
      let form := (Datum.field? fields "type").getD .null
      if form = .text "condition" then do
        let inner ← require fields "condition"
        return .leaf (← readCondition (inner.closed around))
      else if form = .text "logical" then do
        let op ← require fields "operator"
        let op ← Connective.ofDatum (op.closed around)
        match _left : Datum.field? fields "left" with
        | none => throw (.missingField "left")
        | some l =>
            let left ← ofDatumIn around l
            match _right : Datum.field? fields "right" with
            | none => throw (.missingField "right")
            | some r => return .node op left (← ofDatumIn around r)
      else do throw (.unknownForm (← (form.closed around).checked))
  | .shared mark content => ofDatumIn ((mark, (Datum.shared mark content).closed around) :: around) content
  | .again _ => .error .endless
  | other => .error (.notObject other)
termination_by sizeOf d
decreasing_by
  · exact sizeOf_field _left
  · exact sizeOf_field _right
  · simp only [Datum.shared.sizeOf_spec]; omega

def ofDatum (d : Datum) : Except Refusal Expr := ofDatumIn [] d

end Expr

namespace Document

def ofDeclaration (declaration : Declaration) : Datum :=
  .record [("name", declaration.name), ("value", declaration.value)]

def ofRule (rule : Rule) : Except Refusal Datum := do
  return .record [("expression", ← rule.expression.toDatum), ("result", rule.result)]

def ofProgram (p : Program) : Except Refusal Datum := do
  let rules ← p.rules.mapM ofRule
  return .record [
    ("statements", .list (p.statements.map ofDeclaration)),
    ("results", .list (p.results.map ofDeclaration)),
    ("rules", .list rules)]

def readDeclaration (d : Datum) : Except Refusal Declaration := do
  let fields ← fieldsOf d
  let name ← require fields "name"
  return ⟨name, (Datum.field? fields "value").getD (.text "")⟩

def readRule (d : Datum) : Except Refusal Rule := do
  let fields ← fieldsOf d
  let expression ← Expr.ofDatum (← require fields "expression")
  let result ← require fields "result"
  return ⟨expression, result⟩

-- The members of a datum that stands for a list. A text gives its characters and an object its
-- keys.
def members (d : Datum) : Except Refusal (List Datum) :=
  match d.opened with
  | .list items => .ok items
  | .object fields => .ok (fields.map Prod.fst)
  | .text s => .ok (s.toList.map fun c => Datum.ofChars [c])
  | other => .error (.notSequence other)

def readMembers (fields : List (Datum × Datum)) (name : String) (readOne : Datum → Except Refusal α) :
    Except Refusal (List α) := do
  let items ← members ((Datum.field? fields name).getD (.list []))
  items.mapM readOne

def toProgram (d : Datum) : Except Refusal Program :=
  match d.opened with
  | .object fields => do
      let statements ← readMembers fields "statements" readDeclaration
      let results ← readMembers fields "results" readDeclaration
      let rules ← readMembers fields "rules" readRule
      return ⟨statements, results, rules⟩
  | other => .error (.notObject other)

end Document

end Triage
