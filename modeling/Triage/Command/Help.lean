import Triage.Command.Settings

namespace Triage.Command
open Text

def programName : String := "xsys"

def versionText : String := programName ++ " 1.0.0\n"

namespace Flag

def valueName : Flag → String
  | .input => "INPUT"
  | .title => "TITLE"
  | .form => "\x7bhtml,json,yaml\x7d"
  | .output => "OUTPUT"
  | .answer => "NAME=yes|no"
  | .help | .version | .strict | .verbose => ""

def isRequired (flag : Flag) : Bool := flag == .input

def purpose : Flag → String
  | .help => "show this help message and exit"
  | .version => "show program\x27s version number and exit"
  | .input => "Input file with .xsys extension"
  | .title => "Page heading for HTML output (default: " ++ Page.defaultTitle ++ ")"
  | .form => "Output type (default: html)"
  | .output => "Output file name without extension (default: output)"
  | .strict => "Reject rules naming undeclared statements or results"
  | .answer => "Answer a statement and print the selected result instead of writing a file"
  | .verbose => "Enable debug logging"

def spelling (flag : Flag) (s : String) : String := if flag.takesValue then s ++ " " ++ flag.valueName else s

def usage (flag : Flag) : String :=
  let shown := flag.spelling (flag.spellings.headD "")
  if flag.isRequired then shown else "[" ++ shown ++ "]"

end Flag

def fillLines (width : Nat) (line : String) : List String → List String
  | [] => [line]
  | word :: words =>
      if line.length + 1 + word.length ≤ width then fillLines width (line ++ " " ++ word) words
      else line :: fillLines width word words

def spaces (count : Nat) : String := "".pushn ' ' count

def block (column width : Nat) : List String → String
  | [] => ""
  | word :: words => ("\n" ++ spaces column).intercalate (fillLines (width - column) word words) ++ "\n"

def pageWidth : Nat := 78

def usageText : String :=
  let start := "usage: " ++ programName ++ " "
  start ++ block start.length pageWidth (Flag.all.map Flag.usage)

-- The column in which help stands. It stands on a line of its own behind names that reach that far.
def helpColumn : Nat := 24

def Flag.entry (flag : Flag) : String :=
  let names := "  " ++ ", ".intercalate (flag.spellings.map flag.spelling)
  let gap := if names.length + 2 ≤ helpColumn then spaces (helpColumn - names.length) else "\n" ++ spaces helpColumn
  names ++ gap ++ block helpColumn pageWidth (flag.purpose.splitOn " ")

def helpText : String :=
  usageText ++ "\nGenerate HTML, JSON or YAML from an .xsys expert-system source.\n\noptions:\n" ++
    String.join (Flag.all.map Flag.entry)

end Triage.Command
