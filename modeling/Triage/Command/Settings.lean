import Triage.Selection
import Triage.Command.Argument
import Triage.Page.Render

namespace Triage.Command
open Text

-- A text, or nothing where an option takes two dashes for its value.
abbrev Value := Option (List Letter)

def nothing : Datum := .list []

def Value.shown (value : Value) : List Letter := value.getD (Letter.ofChars nothing.display)

structure Settings where
  input : Option Value
  title : Value
  -- None of the forms when it was given as nothing.
  form : Option Form
  output : Value
  strict : Bool
  answers : List (Option (List Letter × Reply))
  verbose : Bool
  deriving DecidableEq

namespace Settings

def usual : Settings where
  input := none
  title := some (Letter.ofString Page.defaultTitle)
  form := some .html
  output := some (Letter.ofString "output")
  strict := false
  answers := []
  verbose := false

inductive Ending where
  | complaint (complaint : Complaint)
  | help
  | version
  deriving DecidableEq

def trimmed (text : List Letter) : List Letter :=
  ((text.dropWhile (Letter.satisfies isBlank)).reverse.dropWhile (Letter.satisfies isBlank)).reverse

def readReply? (text : List Letter) : Option Reply := do
  let word := String.ofList ((← Letter.chars? (trimmed text)).map Char.toLower)
  if word = Reply.yes.word then some .yes else if word = Reply.no.word then some .no else none

def readAnswer (value : List Letter) : Except Complaint (List Letter × Reply) :=
  let (left, right) := cutEquals value
  let name := trimmed left
  match right.bind readReply? with
  | some reply => if name.isEmpty then .error (.badAnswer value) else .ok (name, reply)
  | none => .error (.badAnswer value)

def readForm (value : List Letter) : Except Complaint Form :=
  match Form.all.find? fun form => Letter.ofChars form.name == value with
  | some form => .ok form
  | none => .error (.badForm value)

def apply (s : Settings) (flag : Flag) (value : Value) : Except Ending Settings :=
  match flag with
  | .help => .error .help
  | .version => .error .version
  | .input => .ok { s with input := some value }
  | .title => .ok { s with title := value }
  | .form => do return { s with form := ← (value.mapM readForm).mapError .complaint }
  | .output => .ok { s with output := value }
  | .strict => .ok { s with strict := true }
  | .answer => do return { s with answers := s.answers ++ [← (value.mapM readAnswer).mapError .complaint] }
  | .verbose => .ok { s with verbose := true }

def applyAll (s : Settings) (options : List (Flag × Value)) : Except Ending Settings :=
  options.foldlM (fun s (flag, value) => s.apply flag value) s

def read (s : Settings) : List (List Letter × Kind) → Except Ending (Settings × List (List Letter))
  | [] => .ok (s, [])
  | (_, .option flag short joined) :: args => do
      let cluster ← (expandOption flag short joined).mapError .complaint
      match cluster.wants, args with
      | some last, (value, .plain) :: args => do
          let s ← s.applyAll (cluster.options ++ [(last, some value)])
          read s args
      | some last, _ => throw (.complaint (.valueMissing last))
      | none, args => do
          let s ← s.applyAll cluster.options
          read s args
  | (arg, _) :: args => do
      let (s, extras) ← read s args
      return (s, arg :: extras)

-- All arguments are classified before any takes effect.
def ofArguments (args : List (List Letter)) : Except Ending (Settings × Value) := do
  let kinds ← (classifyAll args).mapError .complaint
  let (settings, extras) ← read usual kinds
  match settings.input with
  | none => throw (.complaint .inputMissing)
  | some input =>
      if extras.isEmpty then return (settings, input) else throw (.complaint (.unrecognized extras))

end Settings

end Triage.Command
