import Triage.Datum.Basic
import Triage.Text.Letter
import Triage.Text.Printable

namespace Triage.Datum
open Triage.Text

def quotedChar (mark c : Char) : List Char :=
  if c = mark || c = '\\' then ['\\', c]
  else if c = '\t' then ['\\', 't']
  else if c = '\n' then ['\\', 'n']
  else if c = '\r' then ['\\', 'r']
  else if isPrintable c then [c]
  else if c.toNat < 0x100 then '\\' :: 'x' :: hex .lower 2 c.toNat
  else if c.toNat < 0x10000 then '\\' :: 'u' :: hex .lower 4 c.toNat
  else '\\' :: 'U' :: hex .lower 8 c.toNat

-- Single marks, unless the text holds one and no double mark.
def quoteMark (text : List Char) : Char := if text.contains '\x27' && !text.contains '"' then '"' else '\x27'

def quotedText (text : List Char) : List Char :=
  quoteMark text :: text.flatMap (quotedChar (quoteMark text)) ++ [quoteMark text]

def quotedLetters (text : List Letter) : List Char :=
  let mark := quoteMark (text.filterMap Letter.char?)
  let inner := text.flatMap fun
    | .char c => quotedChar mark c
    | .half index => Letter.escapedHalf index
  mark :: inner ++ [mark]

def integerText (n : Int) : List Char := (toString n).toList

def commaSeparated : List (List Char) → List Char
  | [] => []
  | [item] => item
  | item :: items => item ++ ',' :: ' ' :: commaSeparated items

def ellipsis : Datum → List Char
  | .object _ => "\x7b...\x7d".toList
  | _ => "[...]".toList

mutual

-- `around` holds the shared data that a place is part of.
def quotedIn (around : List (Nat × Datum)) : Datum → List Char
  | .null => "None".toList
  | .bool true => "True".toList
  | .bool false => "False".toList
  | .int n => integerText n
  | .real x => x.text "inf" "nan"
  | .text s => quotedText s.toList
  | .list items => '[' :: commaSeparated (quotedItems around items) ++ [']']
  | .pair first second => '(' :: quotedIn around first ++ ',' :: ' ' :: quotedIn around second ++ [')']
  | .object fields => '\x7b' :: commaSeparated (quotedFields around fields) ++ ['\x7d']
  | .shared mark content =>
      if (around.lookup mark).isSome then ellipsis content else quotedIn ((mark, content) :: around) content
  | .again mark => ellipsis ((around.lookup mark).getD .null)

def quotedItems (around : List (Nat × Datum)) : List Datum → List (List Char)
  | [] => []
  | item :: items => quotedIn around item :: quotedItems around items

def quotedFields (around : List (Nat × Datum)) : List (Datum × Datum) → List (List Char)
  | [] => []
  | (key, value) :: fields =>
      (quotedIn around key ++ ':' :: ' ' :: quotedIn around value) :: quotedFields around fields

end

def quoted (d : Datum) : List Char := quotedIn [] d

def display : Datum → List Char
  | .text s => s.toList
  | d => quoted d

def digitLimit : Nat := 4300

def fitsLimit (n : Int) : Bool := n.natAbs < Nat.pow 10 digitLimit

mutual

def writable : Datum → Bool
  | .int n => fitsLimit n
  | .list items => writableItems items
  | .pair first second => writable first && writable second
  | .object fields => writableFields fields
  | .shared _ content => writable content
  | _ => true

def writableItems : List Datum → Bool
  | [] => true
  | item :: items => writable item && writableItems items

def writableFields : List (Datum × Datum) → Bool
  | [] => true
  | (key, value) :: fields => writable key && writable value && writableFields fields

end

def kindName : Datum → String
  | .null => "NoneType"
  | .bool _ => "bool"
  | .int _ => "int"
  | .real _ => "float"
  | .text _ => "str"
  | .list _ => "list"
  | .pair .. => "tuple"
  | .object _ => "dict"
  | .shared _ content => content.kindName
  | .again _ => "list"

end Triage.Datum
