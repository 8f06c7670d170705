import Triage.Program.Basic
import Triage.Selection

namespace Triage

structure Metrics where
  depth : Nat
  nodes : Nat
  -- Each name once.
  names : List Datum
  deriving DecidableEq, Repr

def Expr.metrics : Expr → Except Refusal Metrics
  | .leaf condition =>
      if condition.statement.isKey then .ok ⟨1, 1, [condition.statement]⟩
      else .error (.notName condition.statement)
  | .node _ left right => do
      let l ← left.metrics
      let r ← right.metrics
      return ⟨max l.depth r.depth + 1, l.nodes + r.nodes + 1, Datum.union l.names r.names⟩
  | .foreign _ => .ok ⟨1, 1, []⟩

structure Report where
  statements : Nat
  results : Nat
  rules : Nat
  usage : List (Datum × Nat)
  undefinedStatements : List Datum
  unusedStatements : List Datum
  duplicateStatements : List Datum
  undefinedResults : List Datum
  unusedResults : List Datum
  duplicateResults : List Datum
  depth : Nat
  nodes : Nat
  warnings : List (List Char)
  deriving DecidableEq, Repr

namespace Report

def sorted (names : List Datum) : Except Refusal (List Datum) :=
  match Datum.sort? names with
  | some names => .ok names
  | none => .error (.unordered names)

def duplicates (names : List Datum) : List Datum :=
  (Datum.distinct names).filter fun name => 1 < Datum.occurrences names name

def usesOf (metrics : List Metrics) (name : Datum) : Nat :=
  metrics.countP fun m => Datum.hasKey m.names name

def joined (names : List Datum) : Except Refusal (List Char) := do
  let texts ← names.mapM fun name =>
    match name with
    | .text s => .ok s.toList
    | other => .error (Refusal.notJoinable other)
  return Datum.commaSeparated texts

def listing (title : String) (names : List Datum) : Except Refusal (List (List Char)) :=
  if names.isEmpty then .ok []
  else do
    let list ← joined names
    return [title.toList ++ ": ".toList ++ list]

def listed (title : String) (names : List Datum) : Except Refusal (List Datum × List (List Char)) := do
  let list ← sorted names
  return (list, ← listing title list)

def addTo (warnings : List (List Char)) (message : List Char) : List (List Char) :=
  if warnings.contains message then warnings else warnings ++ [message]

def addWarning (report : Report) (message : List Char) : Report :=
  { report with warnings := addTo report.warnings message }

def depthLimit : Nat := 5

def depthWarning (depth : Nat) : List (List Char) :=
  if depthLimit < depth then
    ["High expression complexity: max depth ".toList ++ Text.decimal depth]
  else []

def referenced (report : Report) : List Datum := report.usage.map Prod.fst

-- Names have no order of their own where they cannot be compared.
def ordered (names : List Datum) : List Datum := (Datum.sort? names).getD names

def entry (rule : Rule) : Except Refusal (Metrics × Datum) := do
  let metrics ← rule.expression.metrics
  if rule.result.isKey then return (metrics, rule.result) else .error (.notName rule.result)

def ofProgram (p : Program) : Except Refusal Report := do
  let statements ← Program.names p.statements
  let results ← Program.names p.results
  let entries ← p.rules.mapM entry
  let metrics := entries.map Prod.fst
  let wanted := entries.map Prod.snd
  let used := ordered (metrics.foldl (fun all m => Datum.union all m.names) [])
  let (undefinedStatements, undeclared) ← listed "Undefined statement references" (Datum.minus used statements)
  let (undefinedResults, unknown) ← listed "Undefined result references" (Datum.minus (Datum.distinct wanted) results)
  let (unusedStatements, unused) ← listed "Unused statements" (Datum.minus (Datum.distinct statements) used)
  let (unusedResults, unreached) ← listed "Unused results" (Datum.minus (Datum.distinct results) wanted)
  let (duplicateStatements, twice) ← listed "Duplicate statement names" (duplicates statements)
  let (duplicateResults, again) ← listed "Duplicate result names" (duplicates results)
  let depth := metrics.foldl (fun greatest m => max greatest m.depth) 0
  let messages := [undeclared, unknown, unused, unreached, twice, again, depthWarning depth].flatten
  return {
    statements := p.statements.length
    results := p.results.length
    rules := p.rules.length
    usage := used.map fun name => (name, usesOf metrics name)
    undefinedStatements, unusedStatements, duplicateStatements
    undefinedResults, unusedResults, duplicateResults
    depth
    nodes := metrics.foldl (fun total m => total + m.nodes) 0
    warnings := messages.foldl addTo [] }

end Report

end Triage
