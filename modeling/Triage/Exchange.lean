import Triage.Document
import Triage.Failure
import Triage.Json.Reader
import Triage.Json.Writer
import Triage.Program.Basic
import Triage.Source.Lines
import Triage.Yaml.Reader
import Triage.Yaml.Writer

namespace Triage

namespace Program

def toDatum (p : Program) : Except Failure Datum := refusing (Document.ofProgram p)

def ofDatum (d : Datum) : Except Failure Program := refusing (Document.toProgram d)

def toJson (p : Program) : Except Failure (List Char) := do
  return Json.render (← refusing (Json.checked (← p.toDatum)))

def ofJson (text : List Char) : Except Failure Program := do
  ofDatum (← Json.read text)

def toYaml (p : Program) : Except Failure (List Char) := do
  return Yaml.render (← refusing (Yaml.checked (← p.toDatum)))

def ofYaml (text : List Char) : Except Failure Program := do
  ofDatum (← Yaml.read text)

def rereadRule (rule : Rule) (line : Nat) : Except Failure Rule := do
  (Source.readRule line (← refusing rule.line)).mapError .fault

def rereadRules (p : Program) : Except Failure Program := do
  let rules ← (p.rules.zipIdx 1).mapM fun (rule, line) => rereadRule rule line
  return { p with rules := rules }

inductive Form where
  | document
  | json
  | yaml
  | lines
  deriving DecidableEq, Repr

def carriedThrough (p : Program) : Form → Except Failure Program
  | .document => do ofDatum (← p.toDatum)
  | .json => do ofJson (← p.toJson)
  | .yaml => do ofYaml (← p.toYaml)
  | .lines => p.rereadRules

-- Whether a program came back from a form as it was. JSON and YAML make all data anew; otherwise data
-- stay what they are.
def unchanged (form : Form) (before after : Program) : Except Failure Bool :=
  match form, after.likeness before with
  | .document, _ | .lines, _ => .ok (after = before)
  | _, .endless => .error (.refused .endless)
  | _, verdict => .ok (verdict = .alike)

end Program

end Triage
