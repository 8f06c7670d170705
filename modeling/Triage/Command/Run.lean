import Triage.Command.Folder
import Triage.Command.Help
import Triage.Console
import Triage.Exchange
import Triage.Report
import Triage.Selection
import Triage.Source.Reader

namespace Triage.Command
open Text

structure Outcome where
  code : Nat
  out : List Letter
  err : List Letter
  folder : Folder

def sourceEnding : List Letter := Letter.ofString ".xsys"

def logLine (logger : String) (text : List Char) : List Char :=
  "DEBUG xsys.".toList ++ logger.toList ++ ": ".toList ++ text ++ ['\n']

def sectionNames : List Char := Datum.commaSeparated (Section.all.map Section.opening)

def stepLine : Source.Step → List Char
  | .sectionsFound => logLine "parser" ("Found sections: ".toList ++ sectionNames)
  | .rulesRead count => logLine "parser" ("Parsed ".toList ++ decimal count ++ " rule(s)".toList)
  | .programRead statements results rules =>
      logLine "parser" ("Parsed program: ".toList ++ decimal statements ++ " statement(s), ".toList ++
        decimal results ++ " result(s), ".toList ++ decimal rules ++ " rule(s)".toList)

def eventLine : Program.Event → List Char
  | .fired result => logLine "evaluator" ("Rule fired: ".toList ++ result.display)
  | .skipped result =>
      logLine "evaluator" ("Rule result ".toList ++ result.quoted ++ " is not declared, skipped".toList)

def logged (settings : Settings) (lines : List (List Char)) : List Letter :=
  if settings.verbose then Letter.ofChars lines.flatten else []

-- A title given as nothing can not be escaped.
def titledPage (title : Value) (p : Program) : Except Refusal (List Letter) :=
  match title with
  | some title => Page.renderLetters title p
  | none => Letter.ofChars <$> Page.render nothing p

def written (settings : Settings) (p : Program) : Except Failure (List Letter) :=
  match settings.form with
  | some .json => Letter.ofChars <$> p.toJson
  | some .yaml => Letter.ofChars <$> p.toYaml
  | some .html | none => refusing (titledPage settings.title p)

section Runs

variable (console : Console) (settings : Settings)

def warningLines (p : Program) : Except Failure (List Letter) :=
  if settings.strict then .ok []
  else do
    let report ← refusing (Report.ofProgram p)
    return report.warnings.flatMap fun warning => console.err "Warning: " (Letter.ofChars warning)

-- A name with half of a pair in it names no statement.
def givenAnswers : Except Failure Answers :=
  settings.answers.zipIdx.foldlM
    (fun answers (given, place) =>
      match given with
      | some (name, reply) =>
          match Letter.chars? name with
          | some name => .ok (answers.set (String.ofList name) (.text reply.word))
          | none => .ok answers
      | none => .error (.emptyAnswer place))
    []

def answer (p : Program) : Act Nat := do
  let answers ← givenAnswers settings
  let events ← refusing (p.events answers)
  let selected ← refusing (p.select answers)
  Act.printError (logged settings (events.map eventLine))
  let line ← match selected with
    | some text => console.out "Result: " (Letter.ofChars text.display)
    | none => console.out "No result selected." []
  Act.print line
  return 0

def formName : List Letter := Letter.ofChars ((settings.form.map Form.name).getD nothing.display)

def outputName : List Letter := settings.output.shown ++ Letter.char '.' :: formName settings

-- Writes the file. It is opened before there is anything to write.
def generate (p : Program) : Act Nat := do
  let place ← Act.openFile (outputName settings)
  let text ← written settings p
  Act.fill place text
  let line ← console.out "File generated: " (outputName settings)
  Act.print line
  return 0

def reject (code : Nat) (message : List Letter) : Act Nat := do
  Act.printError message
  return code

def process (text : List Char) : Act Nat := do
  Act.printError (logged settings ((Source.steps settings.strict text).map stepLine))
  match Source.readAs settings.strict text with
  | .error (.fault fault) => reject 1 (console.err "Syntax Error: " (Letter.ofChars fault.message))
  | .error failure => throw failure
  | .ok p => do
      Act.printError (← warningLines console settings p)
      if settings.answers.isEmpty then generate console settings p else answer console settings p

def processInput (input : List Letter) : Act Nat := do
  if !sourceEnding.isSuffixOf input then
    reject 1 (console.err "Input file must have a .xsys extension." [])
  else
    let folder := (← get).folder
    match folder.content? input with
    | some content => do process console settings (← Folder.textOf content)
    | none =>
        if (folder.path? input).any folder.isFolder then throw .isFolder
        else reject 1 (console.err "Input file not found: " (fullName folder.place input))

def perform (args : List (List Letter)) : Act Nat :=
  match Settings.ofArguments args with
  | .error (.complaint complaint) =>
      reject 2 (Letter.ofString (usageText ++ programName ++ ": error: ") ++ complaint.message ++ [.char '\n'])
  | .error .help => do
      Act.print (Letter.ofString helpText)
      return 0
  | .error .version => do
      Act.print (Letter.ofString versionText)
      return 0
  | .ok (settings, some input) => processInput console settings input
  | .ok (_, none) => throw (.refused (.notText nothing))

def start (args : List (List Letter)) (folder : Folder) : Except Failure Nat × Desk :=
  (perform console args).runOn ⟨[], [], folder⟩

def run (args : List (List Letter)) (folder : Folder) : Except Failure Outcome :=
  let (ending, desk) := start console args folder
  ending.map fun code => ⟨code, desk.out, desk.err, desk.folder⟩

end Runs

end Triage.Command
