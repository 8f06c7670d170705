import Triage.Expr.Basic
import Triage.Datum.Likeness
import Triage.Failure

namespace Triage

structure Declaration where
  name : Datum
  value : Datum
  deriving DecidableEq, Repr

structure Rule where
  expression : Expr
  result : Datum
  deriving DecidableEq, Repr

structure Program where
  statements : List Declaration
  results : List Declaration
  rules : List Rule
  deriving DecidableEq, Repr

namespace Program

def empty : Program := ⟨[], [], []⟩

-- Of declarations with one name the first one counts.
def declared? (declarations : List Declaration) (name : Datum) : Option Declaration :=
  declarations.find? fun declaration => name.likeness declaration.name = .alike

-- The declaration that is asked for. Nothing can be asked for by what is not a number.
def asked? (declarations : List Declaration) (name : Datum) : Option Declaration :=
  if name.isNaN then none else declared? declarations name

def statement? (p : Program) (name : Datum) : Option Declaration := asked? p.statements name

def result? (p : Program) (name : Datum) : Option Declaration := asked? p.results name

def names (declarations : List Declaration) : Except Refusal (List Datum) :=
  declarations.mapM fun declaration =>
    if declaration.name.isKey then .ok declaration.name else .error (.notName declaration.name)

def requireName (declared : List Datum) (name : Datum) (fault : Fault) : Except Failure Unit :=
  if !name.isKey then .error (.refused (.notName name))
  else if Datum.hasKey declared name then .ok ()
  else if name.writable then .error (.fault fault)
  else .error (.refused .tooManyDigits)

def checkRule (statements results : List Datum) (line : Nat) (rule : Rule) : Except Failure Unit := do
  rule.expression.tips.forM fun tip =>
    match tip with
    | .ok condition =>
        requireName statements condition.statement (.undeclaredStatement line condition.statement)
    | .error refusal => .error (.refused refusal)
  requireName results rule.result (.undeclaredResult line rule.result)

def checkReferences (p : Program) : Except Failure Unit := do
  let statements ← (names p.statements).mapError .refused
  let results ← (names p.results).mapError .refused
  (p.rules.zipIdx 1).forM fun (rule, line) => checkRule statements results line rule

end Program

-- Programs that were made apart are equal part by part, in their order.
def Expr.likeness : Expr → Expr → Likeness
  | .leaf a, .leaf b => (a.statement.likeness b.statement).both (.ofBool (a.negated == b.negated))
  | .node op left right, .node other left' right' =>
      ((Likeness.ofBool (op == other)).both (left.likeness left')).both (right.likeness right')
  | .foreign given, .foreign other => given.likeness other
  | _, _ => .different

def Declaration.likeness (a b : Declaration) : Likeness :=
  (a.name.likeness b.name).both (a.value.likeness b.value)

def Rule.likeness (a b : Rule) : Likeness :=
  (a.expression.likeness b.expression).both (a.result.likeness b.result)

def Program.likeness (p q : Program) : Likeness :=
  ((Likeness.listOf Declaration.likeness p.statements q.statements).both
    (Likeness.listOf Declaration.likeness p.results q.results)).both
      (Likeness.listOf Rule.likeness p.rules q.rules)

end Triage
