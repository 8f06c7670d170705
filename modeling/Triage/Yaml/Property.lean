import Triage.Text.Digits
import Triage.Text.Letter
import Triage.Yaml.Plain
import Triage.Yaml.Cell

namespace Triage.Yaml
open Triage.Text

def isNameChar (c : Char) : Bool := c.isAlphanum || c = '-' || c = '_'

def uriMarks : List Char :=
  [';', '/', '?', ':', '@', '&', '=', '+', '$', ',', '.', '!', '~', '*', '\x27', '(', ')', '[', ']', '%']

def isUriChar (c : Char) : Bool := isNameChar c || uriMarks.contains c

def endsName (c : Char) : Bool := isBlankCell c || ['?', ':', ',', ']', '}', '%', '@', '\x60'].contains c

def takeSome (p : Char → Bool) (cells : List Cell) : Except Failure (List Char × List Cell) :=
  let run := charsOf (cells.takeWhile fun c => p c.char)
  if run.isEmpty then .error .badYaml else .ok (run, cells.drop run.length)

def takeName (cells : List Cell) : Except Failure (List Char × List Cell) := do
  let (name, rest) ← takeSome isNameChar cells
  if endsName (peek rest) then return (name, rest) else throw .badYaml

def tagBytes? : List Char → Option (List UInt8)
  | [] => some []
  | '%' :: a :: b :: rest => do
      let code ← readDigits? 16 [a, b]
      return code.toUInt8 :: (← tagBytes? rest)
  | c :: rest => if c = '%' then none else (tagBytes? rest).map (c.toNat.toUInt8 :: ·)

def takeUri (cells : List Cell) : Except Failure (List Char × List Cell) := do
  let (run, rest) ← takeSome isUriChar cells
  match (tagBytes? run).bind decodeUtf8? with
  | some uri => return (uri, rest)
  | none => throw .badYaml

def takeHandle (cells : List Cell) : Except Failure (List Char × List Cell) :=
  if peek cells ≠ '!' then .error .badYaml
  else if peekNext cells = ' ' then .ok (['!'], cells.drop 1)
  else
    let name := charsOf ((cells.drop 1).takeWhile fun c => isNameChar c.char)
    let rest := cells.drop (1 + name.length)
    if peek rest = '!' then .ok (['!'] ++ name ++ ['!'], rest.drop 1) else .error .badYaml

def hasHandle (cells : List Cell) : Bool :=
  (charsOf ((cells.drop 1).takeWhile fun c => !isSpaceOrBreak c.char)).contains '!'

def takeTag (cells : List Cell) : Except Failure (Token × List Cell) := do
  let (token, rest) ←
    if peekNext cells = '<' then do
      let (uri, rest) ← takeUri (cells.drop 2)
      if peek rest ≠ '>' then throw .badYaml
      pure (Token.tag none uri, rest.drop 1)
    else if isBlankCell (peekNext cells) then pure (Token.tag none ['!'], cells.drop 1)
    else do
      let (handle, rest) ← if hasHandle cells then takeHandle cells else pure (['!'], cells.drop 1)
      let (uri, rest) ← takeUri rest
      pure (Token.tag (some handle) uri, rest)
  if isSpaceOrBreak (peek rest) then return (token, rest) else throw .badYaml

def takeVersionNumber (cells : List Cell) : Except Failure (Nat × List Cell) := do
  let (digits, rest) ← takeSome isDigit cells
  if Datum.digitLimit < digits.length then throw (.digitCount digits.length)
  return ((readDigits? 10 digits).getD 0, rest)

def takeVersion (cells : List Cell) : Except Failure (Token × List Cell) := do
  let (major, rest) ← takeVersionNumber (afterSpaces cells)
  if peek rest ≠ '.' then throw .badYaml
  let (_, rest) ← takeVersionNumber (rest.drop 1)
  if !isSpaceOrBreak (peek rest) then throw .badYaml
  return (.version major, rest)

def takeTagHandle (cells : List Cell) : Except Failure (Token × List Cell) := do
  let (handle, rest) ← takeHandle (afterSpaces cells)
  if peek rest ≠ ' ' then throw .badYaml
  let (start, rest) ← takeUri (afterSpaces rest)
  if !isSpaceOrBreak (peek rest) then throw .badYaml
  return (.tagHandle handle start, rest)

def takeDirective (cells : List Cell) : Except Failure (Token × List Cell) := do
  let (name, rest) ← takeSome isNameChar cells
  if !isSpaceOrBreak (peek rest) then throw .badYaml
  let (token, rest) ←
    if name = "YAML".toList then takeVersion rest
    else if name = "TAG".toList then takeTagHandle rest
    else pure (.ignoredDirective, rest.dropWhile fun c => !isBreakOrEnd c.char)
  return (token, ← afterComment rest)

end Triage.Yaml
