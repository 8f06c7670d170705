import Triage.Command.Flag
import Triage.Text.Basic

namespace Triage.Command
open Text

inductive Kind where
  | plain
  | separator
  | unknown
  | option (flag : Flag) (short : Bool) (joined : Option (List Letter))

def dash : Letter := .char '-'

def isShort : List Letter → Bool
  | .char '-' :: letter :: _ => letter != dash
  | _ => false

def cutEquals (text : List Letter) : List Letter × Option (List Letter) :=
  (text.takeWhile (· != .char '='), (text.dropWhile (· != .char '=')).tail?)

def isNegativeNumber : List Char → Bool
  | '-' :: text =>
      let number := if text.getLast? = some '\n' then text.dropLast else text
      let fraction := (number.dropWhile isAnyDigit).drop 1
      (!number.isEmpty && number.all isAnyDigit) ||
        ((number.dropWhile isAnyDigit).head? == some '.' && !fraction.isEmpty && fraction.all isAnyDigit)
  | _ => false

def meanings (arg : List Letter) : List (List Letter × Flag × Option (List Letter)) :=
  if isShort arg then
    (Flag.table.filter fun (s, _) => s == arg.take 2).map fun (s, flag) => (s, flag, some (arg.drop 2))
  else
    let (name, value) := cutEquals arg
    (Flag.table.filter fun (s, _) => name.isPrefixOf s).map fun (s, flag) => (s, flag, value)

def classifyDashed (arg : List Letter) : Except Complaint Kind :=
  match Flag.table.lookup arg, Flag.table.lookup (cutEquals arg).1 with
  | some flag, _ => .ok (.option flag (isShort arg) none)
  | none, some flag => .ok (.option flag (isShort arg) (cutEquals arg).2)
  | none, none =>
      match meanings arg with
      | [(s, flag, joined)] => .ok (.option flag (isShort s) joined)
      | [] =>
          let negative := (Letter.chars? arg).any isNegativeNumber
          .ok (if negative || arg.contains (.char ' ') then .plain else .unknown)
      | several => .error (.ambiguous arg (several.map Prod.fst))

def classify (arg : List Letter) : Except Complaint Kind :=
  match arg with
  | .char '-' :: _ :: _ => classifyDashed arg
  | _ => .ok .plain

def classifyAll : List (List Letter) → Except Complaint (List (List Letter × Kind))
  | [] => .ok []
  | arg :: args =>
      if arg = [dash, dash] then .ok ((arg, .separator) :: args.map fun a => (a, .plain))
      else do return (arg, ← classify arg) :: (← classifyAll args)

structure Cluster where
  options : List (Flag × Option (List Letter))
  wants : Option Flag

-- Two dashes that are joined to an option are no value.
def joinedValue (text : List Letter) : Option (List Letter) := if text = [dash, dash] then none else some text

-- What is joined to a short option without a value is more such options, of which the last one may
-- have a value.
def expand (flag : Flag) (short : Bool) : List Letter → Except Complaint Cluster
  | [] => if flag.takesValue then .ok ⟨[(flag, some [])], none⟩ else .error (.valueIgnored flag [])
  | letter :: text =>
      if flag.takesValue then .ok ⟨[(flag, joinedValue (letter :: text))], none⟩
      else if !short then .error (.valueIgnored flag (letter :: text))
      else
        match Flag.table.lookup [dash, letter], text with
        | none, _ => .error (.valueIgnored flag (letter :: text))
        | some next, [] =>
            .ok (if next.takesValue then ⟨[(flag, none)], some next⟩
              else ⟨[(flag, none), (next, none)], none⟩)
        | some next, text => do
            let inner ← expand next true text
            return { inner with options := (flag, none) :: inner.options }

def expandOption (flag : Flag) (short : Bool) : Option (List Letter) → Except Complaint Cluster
  | some joined => expand flag short joined
  | none => .ok (if flag.takesValue then ⟨[], some flag⟩ else ⟨[(flag, none)], none⟩)

end Triage.Command
