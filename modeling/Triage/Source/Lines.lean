import Triage.Expr.Parser
import Triage.Program.Basic
import Triage.Text.Basic

namespace Triage.Source
open Triage.Text

def readDeclaration (part : List Char) (line : Nat) (text : List Char) : Except Fault Declaration :=
  match splitAt '=' text with
  | [name, value] => .ok ⟨Datum.ofChars (trim name), Datum.ofChars (trim value)⟩
  | _ => .error (.malformedDeclaration part line text)

def readDeclarations (block part : List Char) : Except Fault (List Declaration) :=
  ((contentLines block).zipIdx 1).mapM fun (text, line) => readDeclaration part line text

def thenResult? (text : List Char) : Option (List Char) :=
  match afterStart? "THEN".toList text with
  | some rest =>
      let result := (trimLeft rest).takeWhile isWord
      if opensBlank rest && !result.isEmpty then some result else none
  | none => none
where
  opensBlank : List Char → Bool
    | [] => false
    | c :: _ => isBlank c

-- The condition before the last usable THEN, and the result after it. The condition stays on its
-- line; from there to the THEN there may be further blank lines.
def lastThen? : List Char → Option (List Char × List Char)
  | [] => none
  | c :: text =>
      if c = '\n' then (thenResult? (trimLeft text)).map fun result => ([], result)
      else
        match lastThen? text with
        | some (condition, result) => some (c :: condition, result)
        | none => if isBlank c then (thenResult? text).map fun result => ([], result) else none

-- The condition and result of a rule whose IF has just been passed. With two blanks before it a
-- THEN may follow at once, and the condition is empty.
def afterIf? (text : List Char) : Option (List Char × List Char) :=
  let blanks := text.takeWhile isBlank
  let rest := trimLeft text
  match blanks with
  | [] => none
  | _ :: more =>
      match lastThen? rest with
      | some found => some found
      | none => if more.isEmpty then none else (thenResult? rest).map fun result => ([], result)

-- The first IF that can be completed to a rule decides.
def ifThen? : List Char → Option (List Char × List Char)
  | [] => none
  | c :: text =>
      match (afterStart? "IF".toList (c :: text)).bind afterIf? with
      | some found => some found
      | none => ifThen? text

def readRule (line : Int) (text : List Char) : Except Fault Rule :=
  match ifThen? text with
  | none => .error (.malformedRule line text)
  | some (condition, result) =>
      match Expr.read condition with
      | .error fault => .error (.inRule line text fault)
      | .ok expression => .ok ⟨expression, Datum.ofChars result⟩

def readRules (block : List Char) : Except Fault (List Rule) :=
  ((contentLines block).zipIdx 1).mapM fun (text, line) => readRule line text

end Triage.Source

namespace Triage
open Text

namespace Rule

def line (rule : Rule) : Except Refusal (List Char) := do
  let condition ← (← rule.expression.shown).checked
  let result ← rule.result.checked
  return "IF ".toList ++ condition.display ++ " THEN ".toList ++ result.display

end Rule

namespace Source

def margin : List Char := List.replicate 4 ' '

def declarationLine (declaration : Declaration) : List Char :=
  declaration.name.display ++ " = ".toList ++ declaration.value.display

def layoutSection (part : Section) (lines : List (List Char)) : List Char :=
  part.opening ++ ['\n'] ++ (lines.flatMap fun line => margin ++ line ++ ['\n']) ++ part.closing ++ ['\n']

def layout (p : Program) : Except Refusal (List Char) := do
  let rules ← p.rules.mapM Rule.line
  return layoutSection .statements (p.statements.map declarationLine) ++ ['\n'] ++
    layoutSection .results (p.results.map declarationLine) ++ ['\n'] ++
    layoutSection .rules rules

end Source

end Triage
