import Triage.Failure

namespace Triage

inductive Connective where
  | and
  | or
  deriving DecidableEq, Repr

namespace Connective

def name : Connective → String
  | .and => "AND"
  | .or => "OR"

def word (op : Connective) : List Char := op.name.toList

def apply : Connective → Bool → Bool → Bool
  | .and, a, b => a && b
  | .or, a, b => a || b

end Connective

structure Condition where
  statement : Datum
  negated : Bool
  deriving DecidableEq, Repr

inductive Expr where
  | leaf (condition : Condition)
  | node (op : Connective) (left right : Expr)
  -- A datum that is no expression, put into a tree as it is.
  | foreign (given : Datum)
  deriving DecidableEq, Repr

namespace Expr

def tips : Expr → List (Except Refusal Condition)
  | .leaf condition => [.ok condition]
  | .node _ left right => left.tips ++ right.tips
  | .foreign given => [.error (.notExpression given)]

def conditions (e : Expr) : Except Refusal (List Condition) := e.tips.mapM id

def proper : Expr → Bool
  | .leaf _ => true
  | .node _ left right => left.proper && right.proper
  | .foreign _ => false

def connectives : Expr → Nat
  | .leaf _ => 0
  | .node _ left right => left.connectives + right.connectives + 1
  | .foreign _ => 0

def render : Expr → Except Refusal (List Char)
  | .leaf condition => do
      let name := (← condition.statement.checked).display
      return if condition.negated then "NOT ".toList ++ name else name
  | .node op left right => do
      let l ← left.render
      let r ← right.render
      return '(' :: l ++ ' ' :: op.word ++ ' ' :: r ++ [')']
  | .foreign given => .error (.notExpression given)

-- The expression as it is shown. A lone condition that is not negated shows its statement itself,
-- of whatever kind that is.
def shown (e : Expr) : Except Refusal Datum :=
  match e with
  | .leaf ⟨statement, false⟩ => .ok statement
  | e => e.render.map Datum.ofChars

end Expr

end Triage
