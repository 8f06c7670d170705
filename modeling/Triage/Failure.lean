import Triage.Datum.Display
import Triage.Fault

namespace Triage

inductive Refusal where
  | missingField (name : String)
  | unknownConnective (given : Datum)
  | unknownForm (given : Datum)
  | notExpression (given : Datum)
  | notObject (given : Datum)
  | notRecord (given : Datum)
  | notSequence (given : Datum)
  | notName (given : Datum)
  | notText (given : Datum)
  | notJoinable (given : Datum)
  | unordered (names : List Datum)
  | tooManyDigits
  | circular
  -- Expressions or comparisons that go on without end.
  | endless
  | noReport
  | unknownDetail (name : String)
  deriving DecidableEq, Repr

namespace Refusal

def digitMessage : String :=
  "Exceeds the limit (4300 digits) for integer string conversion; use sys.set_int_max_str_digits() " ++
    "to increase the limit"

def message? : Refusal → Option (List Char)
  | .missingField name => some name.toList
  | .unknownConnective given => some (given.quoted ++ " is not a valid LogicalOperator".toList)
  | .unknownForm given => some ("Unsupported expression dict type: ".toList ++ given.display)
  | .notExpression given =>
      some ("Unsupported Expression type: <class '".toList ++ given.kindName.toList ++ "'>".toList)
  | .tooManyDigits => some digitMessage.toList
  | .circular => some "Circular reference detected".toList
  | _ => none

end Refusal

def Datum.checked (d : Datum) : Except Refusal Datum :=
  if d.writable then .ok d else .error .tooManyDigits

inductive Failure where
  | fault (fault : Fault)
  | refused (refusal : Refusal)
  | badJson (message : List Char)
  | badYaml
  -- A number is written with digits that its base does not have, or with no digits at all.
  | badNumber (message : List Char)
  | noDigits
  | digitCount (count : Nat)
  | overflow
  | emptyAnswer (place : Nat)
  | undecodable
  -- A text has letters that UTF-8 has no bytes for.
  | unencodable
  | missingFolder
  | notFolder
  | isFolder
  | longName
  | nullInName
  deriving DecidableEq, Repr

namespace Failure

def valueMessage? : Failure → Option (List Char)
  | .badNumber message => some message
  | .digitCount count => some (
      "Exceeds the limit (4300 digits) for integer string conversion: value has ".toList ++
        Datum.integerText count ++
        " digits; use sys.set_int_max_str_digits() to increase the limit".toList)
  | .emptyAnswer place => some (
      "dictionary update sequence element #".toList ++ Datum.integerText place ++
        " has length 0; 2 is required".toList)
  | .nullInName => some "embedded null byte".toList
  | _ => none

end Failure

def refusing (outcome : Except Refusal α) : Except Failure α := outcome.mapError .refused

structure Notice where
  kind : FaultKind
  message : List Char
  line : Datum
  text : Datum
  part : Datum
  deriving DecidableEq, Repr

namespace Notice

def setDetail (notice : Notice) (name : String) (value : Datum) : Except Refusal Notice :=
  if name = "line" then .ok { notice with line := value }
  else if name = "text" then .ok { notice with text := value }
  else if name = "section" then .ok { notice with part := value }
  else .error (.unknownDetail name)

def setDetails (notice : Notice) (details : List (String × Datum)) : Except Refusal Notice :=
  details.foldlM (fun notice (name, value) => notice.setDetail name value) notice

def make (kind : FaultKind) (message : List Char) (details : List (String × Datum)) :
    Except Refusal Notice :=
  setDetails ⟨kind, message, .null, .null, .null⟩ details

def rewrap (notice : Notice) (message : List Char) (details : List (String × Datum)) :
    Except Refusal Notice :=
  { notice with message := message }.setDetails details

end Notice

def optionDatum (write : α → Datum) : Option α → Datum
  | some value => write value
  | none => .null

def Fault.notice (fault : Fault) : Notice where
  kind := fault.kind
  message := fault.message
  line := optionDatum .int fault.location.line
  text := optionDatum .ofChars fault.location.text
  part := optionDatum .ofChars fault.location.part

end Triage
