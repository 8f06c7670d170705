import Triage.Failure
import Triage.Yaml.Node.Sharing
import Triage.Yaml.Scalar

namespace Triage.Yaml
open Triage.Text

def indentWidth : Nat := 2

def writeScalar (folds : Bool) (indent column : Nat) (tag : Tag) (text : List Char) : List Char :=
  if tag = .text then writeText folds indent column text else text

-- The characters of the tag and the text of a key: only a short key on one line stands before its
-- colon.
def keyLength (tag : Tag) (text : List Char) : Nat := "!!".length + tag.shortName.length + text.length

def isLineBreak (c : Char) : Bool := c = '\n' || c = '\x85' || c = '\u2028' || c = '\u2029'

def keyLimit : Nat := 128

def isSimpleKey (tag : Tag) (text : List Char) : Bool :=
  keyLength tag text < keyLimit && !text.isEmpty && !text.any isLineBreak

def simpleKey? (indent : Nat) : Node → Option (List Char)
  | .scalar tag text =>
      if isSimpleKey tag text then some (writeScalar false (indent + indentWidth) indent tag text) else none
  | _ => none

def joinLines (indent : Nat) : List (List Char) → List Char
  | [] => []
  | [line] => line
  | line :: lines => line ++ newLine indent ++ joinLines indent lines

-- The column of a list inside what stands at an indent. A value starts in the column of its key, unless
-- it stands on the line of its mark.
def listIndent (isValue sameLine : Bool) (indent : Nat) : Nat :=
  if isValue && !sameLine then indent else indent + indentWidth

def blockStart (sameLine : Bool) (indent : Nat) : List Char := if sameLine then [' '] else newLine indent

mutual

-- What follows the dash of an item, the colon of a value or the mark of a long key. A scalar starts
-- in the column given. A block may start on the same line, unless there is a name before it.
def writeAfter (isValue sameLine : Bool) (indent column : Nat) : Node → List Char
  | .scalar tag text => ' ' :: writeScalar true (indent + indentWidth) column tag text
  | .list _ [] => " []".toList
  | .map _ [] => " \x7b\x7d".toList
  | .list _ items =>
      let inner := listIndent isValue sameLine indent
      blockStart sameLine inner ++ joinLines inner (writeItems inner items)
  | .map _ fields =>
      let inner := indent + indentWidth
      blockStart sameLine inner ++ joinLines inner (writeFields inner fields)
  | .named name node => ' ' :: '&' :: name ++ writeAfter isValue false indent column node
  | .alias name => ' ' :: '*' :: name

def writeItems (indent : Nat) : List Node → List (List Char)
  | [] => []
  | item :: items =>
      ('-' :: writeAfter false true indent (indent + indentWidth) item) :: writeItems indent items

def writeFields (indent : Nat) : List (Node × Node) → List (List Char)
  | [] => []
  | (key, value) :: fields =>
      let line := match simpleKey? indent key with
        | some written => written ++ ':' :: writeAfter true false indent (indent + written.length + 2) value
        | none =>
            '?' :: writeAfter false true indent (indent + indentWidth) key ++ newLine indent ++
              ':' :: writeAfter true true indent (indent + indentWidth) value
      line :: writeFields indent fields

end

def writeDocument : Node → List Char
  | .scalar tag text => writeScalar true indentWidth 0 tag text ++ ['\n']
  | .list _ [] => "[]\n".toList
  | .map _ [] => "\x7b\x7d\n".toList
  | .list _ items => joinLines 0 (writeItems 0 items) ++ ['\n']
  | .map _ fields => joinLines 0 (writeFields 0 fields) ++ ['\n']
  | .named name node => '&' :: name ++ '\n' :: writeDocument node
  | .alias name => '*' :: name ++ ['\n']

def render (d : Datum) : List Char := writeDocument (.ofDatum d)

def checked (d : Datum) : Except Refusal Datum :=
  if (Walk.start.through d).fits then .ok d else .error .tooManyDigits

end Triage.Yaml
