import Triage.Text.Basic
import Triage.Document
import Triage.Json.Writer
import Triage.Page.Template
import Triage.Text.Letter

namespace Triage.Page
open Triage.Text

def entities : List (Char × List Char) := [
  ('&', "&amp;".toList),
  ('<', "&lt;".toList),
  ('>', "&gt;".toList),
  ('"', "&quot;".toList),
  ('\x27', "&#x27;".toList)]

def escapeChar (c : Char) : List Char :=
  match entities.find? fun (plain, _) => plain == c with
  | some (_, entity) => entity
  | none => [c]

def escape (text : List Char) : List Char := text.flatMap escapeChar

def unescape (text : List Char) : List Char :=
  match text with
  | [] => []
  | c :: rest =>
      match _entity : entities.findSome? fun (plain, entity) =>
          (afterStart? entity (c :: rest)).map fun rest => (plain, rest) with
      | some (plain, after) => plain :: unescape after
      | none => c :: unescape rest
termination_by text.length
decreasing_by
  · obtain ⟨pair, member, starts⟩ := List.exists_of_findSome?_eq_some _entity
    simp only [Option.map_eq_some_iff, Prod.mk.injEq] at starts
    obtain ⟨tail, found, _, rfl⟩ := starts
    have total := afterStart?_length found
    have letters : ∀ p ∈ entities, 0 < p.2.length := by decide
    have some := letters pair member
    simp only [List.length_cons] at total ⊢
    omega
  · simp

def noResultMessage : String := "No specific issue identified. Your system may be functioning normally."

def defaultTitle : String := "Expert System"

-- A datum as script data. A slash after an opening angle bracket is escaped, so that no data can
-- end the script.
def embed (d : Datum) : List Char := replaceAll "</".toList "<\\/".toList (Json.render d)

structure ScriptData where
  rules : Datum
  results : Datum
  statements : Datum

def ScriptData.ofProgram (p : Program) : Except Refusal ScriptData := do
  let rules ← p.rules.mapM Document.ofRule
  return {
    rules := ← Json.checked (.list rules)
    results := ← Json.checked (.list (p.results.map Document.ofDeclaration))
    statements := ← Json.checked (.list (p.statements.map Document.ofDeclaration)) }

def ScriptData.text (data : ScriptData) : Marker → List Char
  | .rules => embed data.rules
  | .results => embed data.results
  | .statements => embed data.statements
  | .noResult => embed (.text noResultMessage)

def filled (fill : Marker → List Char) (pieces : List Piece) : List Char :=
  pieces.flatMap fun piece =>
    match piece with
    | .plain text => text
    | .marker marker => fill marker

-- The script of a page. Markers are replaced one after the other, each wherever it stands by then:
-- data that holds a marker still to come is filled in as well.
def scriptText (data : ScriptData) : List Char :=
  Marker.all.foldl (fun text marker => replaceAll marker.word (data.text marker) text) (filled Marker.word script)

inductive Part where
  | markup (text : String)
  | data (text : List Char)
  deriving Repr

def Part.render : Part → List Char
  | .markup text => text.toList
  | .data text => escape text

def statementParts (name value : List Char) : List Part := [
  .markup "            <div class=\"statement\">\n                <label>", .data value,
  .markup "</label>\n                <div class=\"options\">\n",
  .markup "                    <label><input type=\"radio\" name=\"", .data name,
  .markup "\" value=\"yes\"> Yes</label>\n",
  .markup "                    <label><input type=\"radio\" name=\"", .data name,
  .markup "\" value=\"no\"> No</label>\n                </div>\n            </div>\n"]

def textOf : Datum → Except Refusal (List Char)
  | .text s => .ok s.toList
  | other => .error (.notText other)

def declarationParts (declaration : Declaration) : Except Refusal (List Part) := do
  return statementParts (← textOf declaration.name) (← textOf declaration.value)

def beforeTitle : List Part :=
  [.markup "<!DOCTYPE html>\n<html>\n<head>\n    <meta charset=\"utf-8\">\n    <title>"]

def beforeHeading : List Part := [
  .markup "</title>\n    <style>",
  .markup (String.ofList style),
  .markup "    </style>\n</head>\n<body>\n    <div class=\"container\">\n        <h1>"]

def beforeScript (statements : List Part) : List Part :=
  .markup "</h1>\n        <h2>Answer the following questions:</h2>\n        <form id=\"ruleForm\">\n" ::
  statements ++ [
  .markup "            <button type=\"submit\">Diagnose</button>\n        </form>\n        <h2>Result:</h2>\n",
  .markup "        <div id=\"result\"></div>\n    </div>\n    <script>"]

def opening (title : List Char) (statements : List Part) : List Part :=
  beforeTitle ++ .data title :: beforeHeading ++ .data title :: beforeScript statements

def closing : List Part := [.markup "    </script>\n</body>\n</html>\n"]

def render (title : Datum) (p : Program) : Except Refusal (List Char) := do
  let data ← ScriptData.ofProgram p
  let statements ← p.statements.mapM declarationParts
  let title ← textOf title
  return (opening title statements.flatten).flatMap Part.render ++ scriptText data ++ closing.flatMap Part.render

def escapeLetter : Letter → List Letter
  | .char c => Letter.ofChars (escapeChar c)
  | .half index => [.half index]

-- The same page under a title that UTF-8 may have no bytes for.
def renderLetters (title : List Letter) (p : Program) : Except Refusal (List Letter) := do
  let data ← ScriptData.ofProgram p
  let statements ← p.statements.mapM declarationParts
  let title := title.flatMap escapeLetter
  return Letter.ofChars (beforeTitle.flatMap Part.render) ++ title ++
    Letter.ofChars (beforeHeading.flatMap Part.render) ++ title ++
    Letter.ofChars ((beforeScript statements.flatten).flatMap Part.render ++ scriptText data ++
      closing.flatMap Part.render)

end Triage.Page
