import Triage.Text.Digits
import Triage.Text.Basic
import Triage.Yaml.Cell

namespace Triage.Yaml
open Triage.Text

inductive Tag where
  | null
  | bool
  | int
  | real
  | timestamp
  | merge
  | value
  | text
  | list
  | map
  | entries
  | other (name : List Char)
  deriving DecidableEq, Repr

namespace Tag

def standard : String := "tag:yaml.org,2002:"

def names : List (String × Tag) := [
  ("null", .null), ("bool", .bool), ("int", .int), ("float", .real), ("timestamp", .timestamp),
  ("merge", .merge), ("value", .value), ("str", .text), ("seq", .list), ("map", .map),
  ("omap", .entries), ("pairs", .entries)]

def ofName (name : List Char) : Tag :=
  match names.find? fun (short, _) => standard.toList ++ short.toList == name with
  | some (_, tag) => tag
  | none => .other name

def shortName (tag : Tag) : String :=
  match names.find? fun (_, known) => known = tag with
  | some (short, _) => short
  | none => ""

end Tag

def trueWords : List String := ["yes", "Yes", "YES", "true", "True", "TRUE", "on", "On", "ON"]

def falseWords : List String := ["no", "No", "NO", "false", "False", "FALSE", "off", "Off", "OFF"]

def nullWords : List String := ["", "~", "null", "Null", "NULL"]

def withoutSign : List Char → List Char
  | '+' :: text => text
  | '-' :: text => text
  | text => text

def isDigitOrGap (c : Char) : Bool := isDigit c || c == '_'

def isGapped (text : List Char) : Bool :=
  match text with
  | [] => false
  | c :: rest => isDigit c && rest.all isDigitOrGap

def isSixty : List Char → Bool
  | [d] => isDigit d
  | [d, e] => '0' ≤ d && d ≤ '5' && isDigit e
  | _ => false

def isSexagesimal (lead : List Char → Bool) (text : List Char) : Bool :=
  match splitAt ':' text with
  | first :: second :: more => lead first && (second :: more).all isSixty
  | _ => false

def startsNonZero : List Char → Bool
  | c :: _ => c != '0'
  | [] => false

def isIntForm (text : List Char) : Bool :=
  match withoutSign text with
  | '0' :: 'b' :: digits => !digits.isEmpty && digits.all fun c => c == '0' || c == '1' || c == '_'
  | '0' :: 'x' :: digits => !digits.isEmpty && digits.all fun c => (digitValue? 16 c).isSome || c == '_'
  | '0' :: digits => digits.all fun c => (digitValue? 8 c).isSome || c == '_'
  | unsigned =>
      (isGapped unsigned && startsNonZero unsigned) ||
        isSexagesimal (fun lead => isGapped lead && startsNonZero lead) unsigned

def isExponent : List Char → Bool
  | [] => true
  | mark :: sign :: digits =>
      (mark == 'e' || mark == 'E') && (sign == '+' || sign == '-') && !digits.isEmpty && digits.all isDigit
  | _ => false

def isRealForm (text : List Char) : Bool :=
  let unsigned := withoutSign text
  let whole := unsigned.takeWhile fun c => isDigitOrGap c || c == ':'
  let rest := unsigned.drop whole.length
  let pointed := match rest with
    | '.' :: fraction =>
        let places := fraction.takeWhile isDigitOrGap
        let tail := fraction.drop places.length
        (isGapped whole && isExponent tail) || (isSexagesimal isGapped whole && tail.isEmpty)
    | _ => false
  let bare := match text with
    | '.' :: fraction =>
        isGapped (fraction.takeWhile isDigitOrGap) && isExponent (fraction.dropWhile isDigitOrGap)
    | _ => false
  pointed || bare ||
    [".inf", ".Inf", ".INF"].any (fun word => unsigned == word.toList) ||
    [".nan", ".NaN", ".NAN"].any (fun word => text == word.toList)

def takeDigits? (low high : Nat) (text : List Char) : Option (List Char) :=
  let digits := (text.take high).takeWhile isDigit
  if low ≤ digits.length then some (text.drop digits.length) else none

def takeChar? (c : Char) : List Char → Option (List Char)
  | [] => none
  | d :: text => if d = c then some text else none

def isZone (text : List Char) : Bool :=
  match text.dropWhile isGap with
  | [] => text.isEmpty
  | ['Z'] => true
  | sign :: hours =>
      (sign == '+' || sign == '-') &&
        match takeDigits? 1 2 hours with
        | some [] => true
        | some rest => (takeChar? ':' rest).bind (takeDigits? 2 2) == some []
        | none => false

def isClock (text : List Char) : Bool :=
  let clock := do
    let rest ← takeDigits? 1 2 text
    let rest ← (takeChar? ':' rest).bind (takeDigits? 2 2)
    (takeChar? ':' rest).bind (takeDigits? 2 2)
  match clock with
  | some ('.' :: rest) => isZone (rest.dropWhile isDigit)
  | some rest => isZone rest
  | none => false

def isTimestampForm (text : List Char) : Bool :=
  let day (places : Nat) := do
    let rest ← takeDigits? 4 4 text
    let rest ← (takeChar? '-' rest).bind (takeDigits? places 2)
    (takeChar? '-' rest).bind (takeDigits? places 2)
  day 2 == some [] ||
    match day 1 with
    | some (c :: rest) =>
        if c = 'T' || c = 't' then isClock rest else isGap c && isClock (rest.dropWhile isGap)
    | _ => false

def markName : String := Tag.standard ++ "yaml"

def resolveLine (text : List Char) : Tag :=
  if (trueWords ++ falseWords).any fun word => word.toList == text then .bool
  else if nullWords.any fun word => word.toList == text then .null
  else if isRealForm text then .real
  else if isIntForm text then .int
  else if text = ['<', '<'] then .merge
  else if isTimestampForm text then .timestamp
  else if text = ['='] then .value
  else if ['!', '&', '*'].any fun c => [c] == text then .other markName.toList
  else .text

-- A text that no form takes is a text, so a writer must quote a text exactly when a form takes it.
def resolve (text : List Char) : Tag :=
  match text.reverse with
  | '\n' :: c :: line => resolveLine (c :: line).reverse
  | _ => resolveLine text

inductive Node where
  | scalar (tag : Tag) (text : List Char)
  | list (tag : Tag) (items : List Node)
  | map (tag : Tag) (fields : List (Node × Node))
  | named (name : List Char) (node : Node)
  | alias (name : List Char)
  deriving Repr

namespace Node

def empty : Node := .scalar (resolve []) []

end Node

end Triage.Yaml
