import Triage.Failure
import Triage.Text.Basic
import Triage.Text.Digits
import Triage.Text.Lower
import Triage.Yaml.Resolve

namespace Triage.Yaml
open Triage.Text

def isSpacing (c : Char) : Bool := isBlank c && !(0x1C ≤ c.toNat && c.toNat ≤ 0x1F)

def plainPart (text : List Char) : List Char :=
  (((text.dropWhile isSpacing).reverse.dropWhile isSpacing).reverse).map plainDigit

def isNegative (text : List Char) : Bool := text.head? == some '-'

def baseLetter? (base : Nat) : Option Char :=
  if base = 2 then some 'b' else if base = 8 then some 'o' else if base = 16 then some 'x' else none

def withoutBase (base : Nat) (text : List Char) : List Char :=
  match text with
  | '0' :: letter :: digits => if baseLetter? base = some letter.toLower then digits else text
  | _ => text

-- The refusal of digits that are none in a base. It does not show more of them than this.
def shownLength : Nat := 200

def badDigits (base : Nat) (digits : List Char) : Failure :=
  .badNumber ("invalid literal for int() with base ".toList ++ decimal base ++ ": ".toList ++
    (Datum.quotedText digits).take shownLength)

-- A whole number in a base. How many digits it may have is limited in base ten only.
def readWhole (base : Nat) (text : List Char) : Except Failure Int :=
  let plain := plainPart text
  let digits := withoutBase base (withoutSign plain)
  let count := (digits.takeWhile fun c => (digitValue? base c).isSome).length
  if base = 10 && Datum.digitLimit < count then .error (.digitCount count)
  else
    match readDigits? base digits with
    | some n => .ok (if isNegative plain then -(n : Int) else n)
    | none => .error (badDigits base text)

def sixties (places : List (List Char)) : Except Failure Int :=
  places.foldlM (fun total place => do return total * 60 + (← readWhole 10 place)) 0

def withoutGaps (text : List Char) : List Char := text.filter (· != '_')

def readInt (text : List Char) : Except Failure Int := do
  let text := withoutGaps text
  let size ←
    match withoutSign text with
    | [] => throw .noDigits
    | ['0'] => pure 0
    | '0' :: 'b' :: rest => readWhole 2 rest
    | '0' :: 'x' :: rest => readWhole 16 rest
    | '0' :: rest => readWhole 8 ('0' :: rest)
    | digits => if digits.contains ':' then sixties (splitAt ':' digits) else readWhole 10 digits
  return if isNegative text then -size else size

def readDecimal? (text : List Char) : Option (Nat × Int) := do
  let whole := text.takeWhile isDigit
  let rest := text.drop whole.length
  let (fraction, rest) := match rest with
    | '.' :: rest => (rest.takeWhile isDigit, rest.dropWhile isDigit)
    | rest => ([], rest)
  let digits ← readDigits? 10 (whole ++ fraction)
  let power ← match rest with
    | [] => some (0 : Int)
    | mark :: rest =>
        if mark = 'e' || mark = 'E' then
          (readDigits? 10 (withoutSign rest)).map fun n => if isNegative rest then -(n : Int) else n
        else none
  return (digits, power - fraction.length)

def signed (negative : Bool) (x : Binary64) : Binary64 :=
  if negative && !x.isNaN then x.opposite else x

def unmarked : Binary64 := .nan 0

def markedWord : Binary64 := .nan 1

def readPart (text : List Char) : Except Failure Binary64 :=
  let plain := plainPart text
  let unsigned := withoutSign plain
  if unsigned = "inf".toList || unsigned = "infinity".toList then .ok (.infinity (isNegative plain))
  else if unsigned = "nan".toList then .ok unmarked
  else
    match readDecimal? unsigned with
    | some (digits, power) => .ok (.ofDecimal (isNegative plain) digits power)
    | none => .error (.badNumber ("could not convert string to float: ".toList ++ Datum.quotedText text))

-- The sum of places of base sixty, last one lowest, from the lowest on; it is rounded at every step.
def sumPlaces (places : List Binary64) : Except Failure Binary64 :=
  places.reverse.zipIdx.foldlM
    (fun total (place, power) =>
      let unit := Binary64.ofNat (Nat.pow 60 power)
      if unit.isInfinite then .error .overflow else .ok (total.add (place.mul unit)))
    ⟨false, 0⟩

def readReal (text : List Char) : Except Failure Binary64 := do
  let text := lower (withoutGaps text)
  if text.isEmpty then throw .noDigits
  let unsigned := withoutSign text
  if unsigned = ".inf".toList then return .infinity (isNegative text)
  else if unsigned = ".nan".toList then return markedWord
  else
    let size ←
      if unsigned.contains ':' then sumPlaces (← (splitAt ':' unsigned).mapM readPart) else readPart unsigned
    return signed (isNegative text) size

def readBool (text : List Char) : Except Failure Bool :=
  let word := lower text
  if trueWords.any fun w => w.toList == word then .ok true
  else if falseWords.any fun w => w.toList == word then .ok false
  else .error (.refused (.missingField (String.ofList word)))

def scalarDatum (tag : Tag) (text : List Char) : Except Failure Datum :=
  match tag with
  | .null => .ok .null
  | .bool => Datum.bool <$> readBool text
  | .int => Datum.int <$> readInt text
  | .real => Datum.real <$> readReal text
  | .text => .ok (.ofChars text)
  | _ => .error .badYaml

end Triage.Yaml
