import Triage.Text.Basic
import Triage.Yaml.Resolve

namespace Triage.Yaml
open Triage.Text

def foldWidth : Nat := 80

def isSpecial (c : Char) : Bool := !(c == '\n' || (0x20 ≤ c.toNat && c.toNat ≤ 0x7E))

-- Where a space or a line break meets an end of the text or each other, layout would be lost.
def startsLoose : List Char → Bool
  | c :: _ => c == ' ' || c == '\n'
  | [] => false

def endsLoose (text : List Char) : Bool := startsLoose text.reverse

def spaceMeetsBreak : List Char → Bool
  | [] => false
  | [_] => false
  | c :: d :: text => (c == ' ' && d == '\n') || (c == '\n' && d == ' ') || spaceMeetsBreak (d :: text)

def spaceOrEnd : List Char → Bool
  | [] => true
  | c :: _ => c == ' '

def startIndicators : List Char :=
  ['#', ',', '[', ']', '\x7b', '\x7d', '&', '*', '!', '|', '>', '\x27', '"', '%', '@', '\x60']

def startIndicates : List Char → Bool
  | [] => false
  | c :: text => startIndicators.contains c || ((c == '?' || c == ':' || c == '-') && spaceOrEnd text)

def innerIndicates (afterSpace : Bool) : List Char → Bool
  | [] => false
  | c :: text => (c == ':' && spaceOrEnd text) || (c == '#' && afterSpace) || innerIndicates (c == ' ') text

def startsDocument (text : List Char) : Bool :=
  (afterStart? ['-', '-', '-'] text).isSome || (afterStart? ['.', '.', '.'] text).isSome

def isPlain (text : List Char) : Bool :=
  resolve text == .text && !text.any isSpecial && !text.contains '\n' && !startsLoose text &&
    !endsLoose text && !startsDocument text && !startIndicates text && !innerIndicates false text

def isSingle (text : List Char) : Bool := !text.any isSpecial && !spaceMeetsBreak text

inductive Style where
  | plain
  | single
  | double
  deriving DecidableEq, Repr

def Style.ofText (text : List Char) : Style :=
  if isPlain text then .plain else if isSingle text then .single else .double

def newLine (indent : Nat) : List Char := '\n' :: List.replicate indent ' '

def loneSpace (afterSpace : Bool) : List Char → Bool
  | ' ' :: d :: _ => !afterSpace && d != ' '
  | _ => false

def writePlain (folds : Bool) (indent column : Nat) (afterSpace : Bool) : List Char → List Char
  | [] => []
  | c :: text =>
      if folds && foldWidth < column && loneSpace afterSpace (c :: text) then
        newLine indent ++ writePlain folds indent indent false text
      else c :: writePlain folds indent (column + 1) (c == ' ') text

-- The inside of single marks. A mark is written twice, and a run of line breaks with one more
-- break than it has. The first and the last character are never folded.
def writeSingle (folds : Bool) (indent column : Nat) (first afterSpace afterBreak : Bool) :
    List Char → List Char
  | [] => if afterBreak then List.replicate indent ' ' else []
  | c :: text =>
      if c = '\n' then
        (if afterBreak then ['\n'] else ['\n', '\n']) ++
          writeSingle folds indent 0 false false true text
      else
        let lead := if afterBreak then List.replicate indent ' ' else []
        let column := if afterBreak then indent else column
        if folds && !first && foldWidth < column && loneSpace afterSpace (c :: text) then
          lead ++ newLine indent ++ writeSingle folds indent indent false false false text
        else if c = '\x27' then
          lead ++ '\x27' :: '\x27' :: writeSingle folds indent (column + 2) false false false text
        else lead ++ c :: writeSingle folds indent (column + 1) false (c == ' ') false text

def letterEscapes : List (Char × Char) := [
  ('\x00', '0'), ('\x07', 'a'), ('\x08', 'b'), ('\t', 't'), ('\n', 'n'), ('\x0b', 'v'), ('\x0c', 'f'),
  ('\r', 'r'), ('\x1b', 'e'), ('"', '"'), ('\\', '\\'), ('\x85', 'N'), ('\xa0', '_'), ('\u2028', 'L'),
  ('\u2029', 'P')]

def escape? (c : Char) : Option (List Char) :=
  if 0x20 ≤ c.toNat && c.toNat ≤ 0x7E && c != '"' && c != '\\' then none
  else
    match letterEscapes.find? fun (plain, _) => plain == c with
    | some (_, letter) => some ['\\', letter]
    | none =>
        if c.toNat < 0x100 then some ('\\' :: 'x' :: hex .upper 2 c.toNat)
        else if c.toNat < 0x10000 then some ('\\' :: 'u' :: hex .upper 4 c.toNat)
        else some ('\\' :: 'U' :: hex .upper 8 c.toNat)

def escapedBreak (indent : Nat) (text : List Char) : List Char :=
  '\\' :: newLine indent ++ match text with
    | ' ' :: _ => ['\\']
    | _ => []

def columnAfterBreak (indent : Nat) (text : List Char) : Nat :=
  match text with
  | ' ' :: _ => indent + 1
  | _ => indent

-- The inside of double marks. A line ends before a space, after an escape, or before the character
-- after one, never at the first or the last character.
def writeDouble (folds : Bool) (indent column : Nat) (first afterEscape : Bool) : List Char → List Char
  | [] => []
  | c :: text =>
      let inner := folds && !first && !text.isEmpty
      match escape? c with
      | some escape =>
          let column := column + escape.length
          if inner && foldWidth + 1 < column then
            escape ++ escapedBreak indent text ++
              writeDouble folds indent (columnAfterBreak indent text) false true text
          else escape ++ writeDouble folds indent column false true text
      | none =>
          if inner && (c == ' ' || afterEscape) && foldWidth < column then
            escapedBreak indent (c :: text) ++
              c :: writeDouble folds indent (columnAfterBreak indent (c :: text) + 1) false false text
          else c :: writeDouble folds indent (column + 1) false false text

def writeText (folds : Bool) (indent column : Nat) (text : List Char) : List Char :=
  match Style.ofText text with
  | .plain => writePlain folds indent column false text
  | .single => '\x27' :: writeSingle folds indent (column + 1) true false false text ++ ['\x27']
  | .double => '"' :: writeDouble folds indent (column + 1) true false text ++ ['"']

end Triage.Yaml
