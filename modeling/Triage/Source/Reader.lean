import Triage.Source.Sections
import Triage.Source.Lines
import Triage.Program.Basic

namespace Triage.Source

def inSource (outcome : Except Fault α) : Except Fault α := outcome.mapError .inSource

-- The first fault ends the reading; statements come before results, results before rules.
def read (text : List Char) : Except Fault Program := do
  let found ← sections text
  let statements ← inSource (readDeclarations found.statements Section.statements.opening)
  let results ← inSource (readDeclarations found.results Section.results.opening)
  let rules ← inSource (readRules found.rules)
  return ⟨statements, results, rules⟩

def readStrict (text : List Char) : Except Failure Program := do
  let program ← (read text).mapError .fault
  match program.checkReferences with
  | .ok () => return program
  | .error (.fault fault) => throw (.fault (.inSource fault))
  | .error failure => throw failure

def readAs (strict : Bool) (text : List Char) : Except Failure Program :=
  if strict then readStrict text else (read text).mapError .fault

inductive Step where
  | sectionsFound
  | rulesRead (count : Nat)
  | programRead (statements results rules : Nat)
  deriving DecidableEq, Repr

def steps (strict : Bool) (text : List Char) : List Step :=
  match sections text with
  | .error _ => []
  | .ok found =>
      .sectionsFound ::
        match readDeclarations found.statements Section.statements.opening,
            readDeclarations found.results Section.results.opening, readRules found.rules with
        | .ok _, .ok _, .ok rules =>
            .rulesRead rules.length ::
              match readAs strict text with
              | .ok p => [.programRead p.statements.length p.results.length p.rules.length]
              | .error _ => []
        | _, _, _ => []

end Triage.Source
