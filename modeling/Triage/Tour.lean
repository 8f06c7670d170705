import Triage.Example
import Triage.Exchange
import Triage.Page.Render
import Triage.Report
import Triage.Selection
import Triage.Source.Reader

namespace Triage.Tour
open Text

structure Outcome where
  out : List Char
  files : List (String × List Char)

def rule : List Char := List.replicate 80 '=' ++ ['\n']

def title (text : String) : List Char := rule ++ text.toList ++ ['\n'] ++ rule

def stage (number : Nat) (text : String) : List Char :=
  '\n' :: decimal number ++ ". ".toList ++ text.toList ++ "...\n".toList

def done (text : List Char) : List Char := "   ✓ ".toList ++ text ++ ['\n']

def counted (name : String) (count : Nat) : List Char := done (name.toList ++ ": ".toList ++ decimal count)

def namesOrNone (names : List Datum) : List Char :=
  if names.isEmpty then "none".toList else (Datum.list names).display

def listed (name : String) (names : List Datum) : List Char :=
  done (name.toList ++ ": ".toList ++ namesOrNone names)

def ruleLine (r : Rule) : Except Refusal (List Char) := do
  return "      IF ".toList ++ (← r.expression.shown).display ++ " THEN ".toList ++ r.result.display ++ ['\n']

def scenarios : List (List (String × Reply)) := [
  [("no_boot", .yes)],
  [("graphics_issues", .yes), ("fan_noise", .yes)],
  [("slow_performance", .yes), ("overheating", .no)],
  []]

def scenarioLine (p : Program) (scenario : List (String × Reply)) : Except Refusal (List Char) := do
  let answers : Answers := scenario.map fun (name, reply) => (name, .text reply.word)
  let selected ← p.select answers
  let text := match selected with
    | some text => if text.truth then text.display else "no result".toList
    | none => "no result".toList
  return "   ".toList ++ (Datum.record answers).display ++ " → ".toList ++ text ++ ['\n']

def run : Except Failure Outcome := do
  let p ← Source.readAs false Example.source.toList
  let rules ← refusing (p.rules.mapM ruleLine)
  let report ← refusing (Report.ofProgram p)
  let selections ← refusing (scenarios.mapM (scenarioLine p))
  let page ← refusing (Page.render (.text "Computer Diagnostics") p)
  let json ← p.toJson
  let out :=
    title "COMPLETE PIPELINE DEMO: .xsys → Program → Analysis → HTML" ++
    stage 1 "PARSING SOURCE" ++
    counted "Statements" p.statements.length ++ counted "Results" p.results.length ++
    counted "Rules" p.rules.length ++ rules.flatten ++
    stage 2 "ANALYZING PROGRAM" ++
    counted "Max expression depth" report.depth ++
    listed "Undefined statements" report.undefinedStatements ++
    listed "Unused results" report.unusedResults ++
    (report.warnings.flatMap fun warning => "      - ".toList ++ warning ++ ['\n']) ++
    stage 3 "EVALUATING ANSWERS" ++ selections.flatten ++
    stage 4 "GENERATING OUTPUT" ++ done "diagnostics.html".toList ++ done "diagnostics.json".toList
  return ⟨out, [("diagnostics.html", page), ("diagnostics.json", json)]⟩

end Triage.Tour
