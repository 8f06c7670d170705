import Triage.Datum.Key
import Triage.Failure

namespace Triage.Json
open Triage.Text

def unitEscape (unit : Nat) : List Char := '\\' :: 'u' :: hex .lower 4 unit

def highHalf (n : Nat) : Nat := 0xD800 + (n - 0x10000) / 0x400

def lowHalf (n : Nat) : Nat := 0xDC00 + (n - 0x10000) % 0x400

def escapedChar (c : Char) : List Char :=
  if c = '"' then ['\\', '"']
  else if c = '\\' then ['\\', '\\']
  else if c = '\n' then ['\\', 'n']
  else if c = '\r' then ['\\', 'r']
  else if c = '\t' then ['\\', 't']
  else if c = '\x0c' then ['\\', 'f']
  else if c = '\x08' then ['\\', 'b']
  else if 0x20 ≤ c.toNat && c.toNat ≤ 0x7E then [c]
  else if c.toNat < 0x10000 then unitEscape c.toNat
  else unitEscape (highHalf c.toNat) ++ unitEscape (lowHalf c.toNat)

def writeText (text : List Char) : List Char := '"' :: text.flatMap escapedChar ++ ['"']

def realText (x : Binary64) : List Char := x.text "Infinity" "NaN"

def keyText : Datum → List Char
  | .null => "null".toList
  | .bool true => "true".toList
  | .bool false => "false".toList
  | .int n => Datum.integerText n
  | .real x => realText x
  | d => d.display

inductive Layout where
  | compact
  | indented (depth : Nat)

namespace Layout

def indentWidth : Nat := 2

def inner : Layout → Layout
  | .compact => .compact
  | .indented depth => .indented (depth + 1)

def lineBreak : Layout → List Char
  | .compact => []
  | .indented depth => '\n' :: List.replicate (indentWidth * depth) ' '

def colon : Layout → List Char
  | .compact => [':']
  | .indented _ => [':', ' ']

end Layout

def enclosed (layout : Layout) (opening closing : Char) : List (List Char) → List Char
  | [] => [opening, closing]
  | item :: items =>
      opening :: layout.inner.lineBreak ++ item ++
        items.flatMap (fun next => ',' :: layout.inner.lineBreak ++ next) ++
        layout.lineBreak ++ [closing]

mutual

def write (layout : Layout) : Datum → List Char
  | .null => "null".toList
  | .bool true => "true".toList
  | .bool false => "false".toList
  | .int n => Datum.integerText n
  | .real x => realText x
  | .text s => writeText s.toList
  | .list items => enclosed layout '[' ']' (writeItems layout.inner items)
  | .pair first second =>
      enclosed layout '[' ']' [write layout.inner first, write layout.inner second]
  | .object fields => enclosed layout '\x7b' '\x7d' (writeFields layout.inner fields)
  | .shared _ content => write layout content
  | .again _ => []

def writeItems (layout : Layout) : List Datum → List (List Char)
  | [] => []
  | item :: items => write layout item :: writeItems layout items

def writeFields (layout : Layout) : List (Datum × Datum) → List (List Char)
  | [] => []
  | (key, value) :: fields =>
      (writeText (keyText key) ++ layout.colon ++ write layout value) :: writeFields layout fields

end

def integerObstacle? (n : Int) : Option Refusal :=
  if Datum.fitsLimit n then none else some .tooManyDigits

mutual

-- The first thing in a datum that can not be written. `around` holds the marks of what it is part of.
def obstacle? (around : List Nat) : Datum → Option Refusal
  | .int n => integerObstacle? n
  | .list items => obstacleInItems? around items
  | .pair first second => (obstacle? around first).or (obstacle? around second)
  | .object fields => obstacleInFields? around fields
  | .shared mark content => if around.contains mark then some .circular else obstacle? (mark :: around) content
  | .again _ => some .circular
  | _ => none

def obstacleInItems? (around : List Nat) : List Datum → Option Refusal
  | [] => none
  | item :: items => (obstacle? around item).or (obstacleInItems? around items)

def obstacleInFields? (around : List Nat) : List (Datum × Datum) → Option Refusal
  | [] => none
  | (key, value) :: fields =>
      ((obstacle? around key).or (obstacle? around value)).or (obstacleInFields? around fields)

end

def checked (d : Datum) : Except Refusal Datum :=
  match obstacle? [] d with
  | none => .ok d
  | some refusal => .error refusal

def render (d : Datum) : List Char := write (.indented 0) d

def renderLine (d : Datum) : List Char := write .compact d

end Triage.Json
