import Triage.Exchange
import Triage.Report
import Triage.Selection
import Triage.Program.Basic

namespace Triage

structure Consultation where
  program : Program
  answers : Answers
  report : Option Report

namespace Consultation

def start : Consultation := ⟨.empty, [], none⟩

inductive Request where
  | load (read : Except Failure Program)
  | answer (name : String) (given : Datum)
  | retract (name : String)
  | clear
  | fired
  | evaluations
  | notations
  | statement (name : Datum)
  | result (name : Datum)
  | check
  | analyze
  | warn (message : List Char)
  | carry (form : Program.Form)
  | document

inductive Outcome where
  | sizes (statements results rules : Nat)
  | selected (text : Option Datum)
  | names (results : List Datum)
  | truths (values : List Bool)
  | shown (expressions : List Datum)
  | declaration (found : Option Declaration)
  | sound
  | report (report : Report)
  | warnings (messages : List (List Char))
  | unchanged (same : Bool)
  | document (d : Datum)

-- Takes over new answers and selects; the answers stay also when the selection fails.
def reply (c : Consultation) (answers : Answers) : Consultation × Except Failure Outcome :=
  ({ c with answers := answers }, .selected <$> refusing (c.program.select answers))

def advance (c : Consultation) (result : Except Failure α) (next : α → Consultation)
    (outcome : α → Outcome) : Consultation × Except Failure Outcome :=
  match result with
  | .ok a => (next a, .ok (outcome a))
  | .error failure => (c, .error failure)

def sizesOf (p : Program) : Outcome := .sizes p.statements.length p.results.length p.rules.length

def withReport (c : Consultation) (report : Report) : Consultation := { c with report := some report }

def warned (c : Consultation) (message : List Char) : Except Failure Report :=
  match c.report with
  | some report => .ok (report.addWarning message)
  | none => .error (.refused .noReport)

def carried (c : Consultation) (form : Program.Form) : Except Failure (Program × Bool) := do
  let p ← c.program.carriedThrough form
  return (p, ← Program.unchanged form c.program p)

def step (c : Consultation) : Request → Consultation × Except Failure Outcome
  | .load read => c.advance read (fun p => { c with program := p }) sizesOf
  | .answer name given => c.reply (c.answers.set name given)
  | .retract name => c.reply (c.answers.erase name)
  | .clear => c.reply []
  | .fired => (c, (fun fired => .names (fired.map Rule.result)) <$> refusing (c.program.rulesFired c.answers))
  | .evaluations => (c, .truths <$> refusing (c.program.rules.mapM (·.expression.holds c.answers)))
  | .notations => (c, .shown <$> refusing (c.program.rules.mapM (·.expression.shown)))
  | .statement name => (c, .ok (.declaration (c.program.statement? name)))
  | .result name => (c, .ok (.declaration (c.program.result? name)))
  | .check => (c, (fun _ => .sound) <$> c.program.checkReferences)
  | .analyze => c.advance (refusing (Report.ofProgram c.program)) c.withReport .report
  | .warn message => c.advance (c.warned message) c.withReport (.warnings ·.warnings)
  | .carry form =>
      c.advance (c.carried form) (fun (p, _) => { c with program := p }) fun (_, same) => .unchanged same
  | .document => (c, .document <$> c.program.toDatum)

def run (c : Consultation) : List Request → List (Except Failure Outcome)
  | [] => []
  | request :: requests => (c.step request).2 :: run (c.step request).1 requests

end Consultation

end Triage
