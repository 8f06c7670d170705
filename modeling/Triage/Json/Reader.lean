import Triage.Datum.Key
import Triage.Failure
import Triage.Text.Basic

namespace Triage.Json
open Triage.Text

inductive Reason where
  | expectingValue
  | expectingName
  | expectingColon
  | expectingComma
  | unterminated
  | control
  | badEscape
  | badUnit
  | extra
  | byteOrderMark
  | digitCount (count : Nat)
  deriving DecidableEq, Repr

def Reason.text : Reason → String
  | .expectingValue => "Expecting value"
  | .expectingName => "Expecting property name enclosed in double quotes"
  | .expectingColon => "Expecting ':' delimiter"
  | .expectingComma => "Expecting ',' delimiter"
  | .unterminated => "Unterminated string starting at"
  | .control => "Invalid control character at"
  | .badEscape => "Invalid \\escape"
  | .badUnit => "Invalid \\uXXXX escape"
  | .extra => "Extra data"
  | .byteOrderMark => "Unexpected UTF-8 BOM (decode using utf-8-sig)"
  | .digitCount _ => "Too many digits"

structure Problem where
  reason : Reason
  -- The number of characters from the place of the problem to the end of the text.
  left : Nat
  deriving DecidableEq, Repr

def Problem.message (text : List Char) (problem : Problem) : List Char :=
  let position := text.length - problem.left
  let before := text.take position
  let line := before.count '\n' + 1
  let column := (before.reverse.takeWhile (· != '\n')).length + 1
  problem.reason.text.toList ++ ": line ".toList ++ decimal line ++ " column ".toList ++ decimal column ++
    " (char ".toList ++ decimal position ++ [')']

def Problem.failure (text : List Char) (problem : Problem) : Failure :=
  match problem.reason with
  | .digitCount count => .digitCount count
  | _ => .badJson (problem.message text)

def isSpace (c : Char) : Bool := c = ' ' || c = '\t' || c = '\n' || c = '\r'

def skipSpace (text : List Char) : List Char := text.dropWhile isSpace

def shortEscape? (c : Char) : Option Char :=
  if c = '"' || c = '\\' || c = '/' then some c
  else if c = 'b' then some '\x08'
  else if c = 'f' then some '\x0c'
  else if c = 'n' then some '\n'
  else if c = 'r' then some '\r'
  else if c = 't' then some '\t'
  else none

-- The characters of a text up to its closing mark, as code points and escaped halves. `start` is
-- what was left after the opening mark.
def readUnits (start : List Char) : List Char → Except Problem (List Nat × List Char)
  | [] => .error ⟨.unterminated, start.length + 1⟩
  | '"' :: rest => .ok ([], rest)
  | ['\\'] => .error ⟨.unterminated, start.length + 1⟩
  | '\\' :: 'u' :: a :: b :: c :: d :: e :: rest =>
      match readDigits? 16 [a, b, c, d] with
      | none => .error ⟨.badUnit, rest.length + 6⟩
      | some unit => do
          let (units, rest) ← readUnits start (e :: rest)
          return (unit :: units, rest)
  | '\\' :: 'u' :: rest => .error ⟨.badUnit, rest.length + 1⟩
  | '\\' :: c :: rest =>
      match shortEscape? c with
      | none => .error ⟨.badEscape, rest.length + 2⟩
      | some plain => do
          let (units, rest) ← readUnits start rest
          return (plain.toNat :: units, rest)
  | c :: rest =>
      if c.toNat < 0x20 then .error ⟨.control, rest.length + 1⟩
      else do
        let (units, rest) ← readUnits start rest
        return (c.toNat :: units, rest)

def isHighHalf (unit : Nat) : Bool := 0xD800 ≤ unit && unit < 0xDC00

def isLowHalf (unit : Nat) : Bool := 0xDC00 ≤ unit && unit < 0xE000

def replacement : Char := '\ufffd'

def unitChar (unit : Nat) : Char :=
  if isHighHalf unit || isLowHalf unit then replacement else Char.ofNat unit

def joinHalves : List Nat → List Char
  | [] => []
  | [unit] => [unitChar unit]
  | high :: low :: units =>
      if isHighHalf high && isLowHalf low then
        Char.ofNat (0x10000 + (high - 0xD800) * 0x400 + (low - 0xDC00)) :: joinHalves units
      else unitChar high :: joinHalves (low :: units)

def readText (rest : List Char) : Except Problem (List Char × List Char) := do
  let (units, rest) ← readUnits rest rest
  return (joinHalves units, rest)

def wholePart (text : List Char) : List Char × List Char :=
  match text with
  | '0' :: rest => (['0'], rest)
  | _ => (text.takeWhile isDigit, text.dropWhile isDigit)

def fractionPart (text : List Char) : List Char × List Char :=
  match text with
  | '.' :: rest => if (rest.takeWhile isDigit).isEmpty then ([], text)
      else (rest.takeWhile isDigit, rest.dropWhile isDigit)
  | _ => ([], text)

def exponentPart (text : List Char) : Option Int × List Char :=
  match text with
  | mark :: rest =>
      if mark = 'e' || mark = 'E' then
        let (negative, digits) := match rest with
          | '-' :: more => (true, more)
          | '+' :: more => (false, more)
          | _ => (false, rest)
        match readDigits? 10 (digits.takeWhile isDigit) with
        | some n => (some (if negative then -(n : Int) else n), digits.dropWhile isDigit)
        | none => (none, text)
      else (none, text)
  | [] => (none, text)

def readNumber (text : List Char) : Except Problem (Datum × List Char) :=
  let (negative, unsigned) := match text with
    | '-' :: rest => (true, rest)
    | _ => (false, text)
  let (whole, rest) := wholePart unsigned
  let (fraction, rest) := fractionPart rest
  let (exponent, rest) := exponentPart rest
  match readDigits? 10 whole with
  | none => .error ⟨.expectingValue, text.length⟩
  | some n =>
      if fraction.isEmpty && exponent.isNone then
        if Datum.digitLimit < whole.length then .error ⟨.digitCount whole.length, text.length⟩
        else .ok (.int (if negative then -(n : Int) else n), rest)
      else
        let digits := (readDigits? 10 (whole ++ fraction)).getD 0
        .ok (.real (.ofDecimal negative digits (exponent.getD 0 - fraction.length)), rest)

def literals : List (List Char × Datum) := [
  ("null".toList, .null),
  ("true".toList, .bool true),
  ("false".toList, .bool false),
  ("NaN".toList, .real (.nan 0)),
  ("Infinity".toList, .real (.infinity false)),
  ("-Infinity".toList, .real (.infinity true))]

def readLiteral? (text : List Char) : Option (Datum × List Char) :=
  literals.findSome? fun (word, datum) => (afterStart? word text).map fun rest => (datum, rest)

mutual

-- One value at the start of the text. `fuel` bounds the steps into and along the value; of two of
-- them one takes a character.
def readValue : (fuel : Nat) → List Char → Except Problem (Datum × List Char)
  | 0, text => .error ⟨.expectingValue, text.length⟩
  | fuel + 1, text =>
      match text with
      | '"' :: rest => do
          let (chars, rest) ← readText rest
          return (Datum.ofChars chars, rest)
      | '[' :: rest =>
          match skipSpace rest with
          | ']' :: rest => .ok (.list [], rest)
          | rest => do
              let (items, rest) ← readItems fuel rest
              return (.list items, rest)
      | '\x7b' :: rest =>
          match skipSpace rest with
          | '\x7d' :: rest => .ok (.object [], rest)
          | rest => do
              let (fields, rest) ← readFields fuel rest
              return (.object (fields.foldl (fun all (key, value) => Datum.setField all key value) []), rest)
      | _ =>
          match readLiteral? text with
          | some found => .ok found
          | none => readNumber text

def readItems : (fuel : Nat) → List Char → Except Problem (List Datum × List Char)
  | 0, text => .error ⟨.expectingValue, text.length⟩
  | fuel + 1, text => do
      let (item, rest) ← readValue fuel text
      match skipSpace rest with
      | ']' :: rest => return ([item], rest)
      | ',' :: rest => do
          let (items, rest) ← readItems fuel (skipSpace rest)
          return (item :: items, rest)
      | rest => throw ⟨.expectingComma, rest.length⟩

def readFields : (fuel : Nat) → List Char → Except Problem (List (Datum × Datum) × List Char)
  | 0, text => .error ⟨.expectingName, text.length⟩
  | fuel + 1, text =>
      match text with
      | '"' :: rest => do
          let (key, rest) ← readText rest
          match skipSpace rest with
          | ':' :: rest => do
              let (value, rest) ← readValue fuel (skipSpace rest)
              let field := (Datum.ofChars key, value)
              match skipSpace rest with
              | '\x7d' :: rest => return ([field], rest)
              | ',' :: rest => do
                  let (fields, rest) ← readFields fuel (skipSpace rest)
                  return (field :: fields, rest)
              | rest => throw ⟨.expectingComma, rest.length⟩
          | rest => throw ⟨.expectingColon, rest.length⟩
      | _ => .error ⟨.expectingName, text.length⟩

end

def readWhole (text : List Char) : Except Problem Datum :=
  match text with
  | '\ufeff' :: _ => .error ⟨.byteOrderMark, text.length⟩
  | _ => do
      let (value, rest) ← readValue (2 * text.length + 2) (skipSpace text)
      match skipSpace rest with
      | [] => return value
      | rest => throw ⟨.extra, rest.length⟩

def read (text : List Char) : Except Failure Datum :=
  (readWhole text).mapError (Problem.failure text)

end Triage.Json
