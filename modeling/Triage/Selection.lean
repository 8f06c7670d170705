import Triage.Program.Basic

namespace Triage

inductive Reply where
  | yes
  | no
  deriving DecidableEq, Repr

namespace Reply

def word : Reply → String
  | .yes => "yes"
  | .no => "no"

def ofDatum? (d : Datum) : Option Reply :=
  if d = .text Reply.yes.word then some .yes
  else if d = .text Reply.no.word then some .no
  else none

end Reply

abbrev Answers := List (String × Datum)

namespace Answers

def set : Answers → String → Datum → Answers
  | [], name, given => [(name, given)]
  | (other, old) :: answers, name, given =>
      if other = name then (other, given) :: answers else (other, old) :: set answers name given

def erase (answers : Answers) (name : String) : Answers := answers.filter fun (other, _) => other != name

def reply? (answers : Answers) (name : String) : Option Reply :=
  (answers.find? fun (other, _) => other == name).bind fun (_, given) => Reply.ofDatum? given

end Answers

def Condition.wanted (condition : Condition) : Reply := if condition.negated then .no else .yes

-- A name that is no text is never answered; a name that cannot be looked up has no meaning.
def Condition.holds (answers : Answers) (condition : Condition) : Except Refusal Bool :=
  match condition.statement with
  | .text name => .ok (answers.reply? name == some condition.wanted)
  | other => if other.isKey then .ok false else .error (.notName other)

-- Both operands are always asked, the left one first. What is foreign never holds.
def Expr.holds (answers : Answers) : Expr → Except Refusal Bool
  | .leaf condition => condition.holds answers
  | .node op left right => do
      let l ← left.holds answers
      let r ← right.holds answers
      return op.apply l r
  | .foreign _ => .ok false

namespace Program

def fired (answers : Answers) : List Rule → Except Refusal (List Rule)
  | [] => .ok []
  | rule :: rules => do
      let holds ← rule.expression.holds answers
      let rest ← fired answers rules
      return if holds then rule :: rest else rest

def rulesFired (p : Program) (answers : Answers) : Except Refusal (List Rule) := fired answers p.rules

def outcome? (results : List Declaration) (rule : Rule) : Option Datum :=
  (declared? results rule.result).map Declaration.value

-- What a rule selects stays until a later rule selects something else.
def selectFrom (results : List Declaration) (answers : Answers) (selected : Option Datum) :
    List Rule → Except Refusal (Option Datum)
  | [] => .ok selected
  | rule :: rules => do
      let holds ← rule.expression.holds answers
      if holds then
        -- The result is looked up before the next rule is tried.
        if rule.result.isKey then selectFrom results answers ((outcome? results rule).or selected) rules
        else .error (.notName rule.result)
      else selectFrom results answers selected rules

def selectAmong (results : List Declaration) (rules : List Rule) (answers : Answers) :
    Except Refusal (Option Datum) := do
  let _ ← names results
  selectFrom results answers none rules

def select (p : Program) (answers : Answers) : Except Refusal (Option Datum) :=
  selectAmong p.results p.rules answers

inductive Event where
  | fired (result : Datum)
  | skipped (result : Datum)
  deriving DecidableEq, Repr

def events (p : Program) (answers : Answers) : Except Refusal (List Event) := do
  let firing ← fired answers p.rules
  return firing.flatMap fun rule =>
    if (declared? p.results rule.result).isSome then [.fired rule.result]
    else [.fired rule.result, .skipped rule.result]

end Program

end Triage
