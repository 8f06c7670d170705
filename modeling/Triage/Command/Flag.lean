import Triage.Datum.Display

namespace Triage.Command
open Text

inductive Flag where
  | help
  | version
  | input
  | title
  | form
  | output
  | strict
  | answer
  | verbose
  deriving DecidableEq, Repr

namespace Flag

def all : List Flag := [.help, .version, .input, .title, .form, .output, .strict, .answer, .verbose]

def spellings : Flag → List String
  | .help => ["-h", "--help"]
  | .version => ["--version"]
  | .input => ["-i", "--input"]
  | .title => ["-T", "--title"]
  | .form => ["-t", "--type"]
  | .output => ["-o", "--output"]
  | .strict => ["--strict"]
  | .answer => ["-a", "--answer"]
  | .verbose => ["-v", "--verbose"]

def takesValue : Flag → Bool
  | .input | .title | .form | .output | .answer => true
  | _ => false

def table : List (List Letter × Flag) :=
  all.flatMap fun flag => flag.spellings.map fun s => (Letter.ofString s, flag)

def label (flag : Flag) : List Char := "/".intercalate flag.spellings |>.toList

end Flag

inductive Form where
  | html
  | json
  | yaml
  deriving DecidableEq, Repr

namespace Form

def all : List Form := [.html, .json, .yaml]

def name : Form → List Char
  | .html => "html".toList
  | .json => "json".toList
  | .yaml => "yaml".toList

end Form

inductive Complaint where
  | ambiguous (given : List Letter) (meant : List (List Letter))
  | valueMissing (flag : Flag)
  | valueIgnored (flag : Flag) (value : List Letter)
  | badForm (value : List Letter)
  | badAnswer (value : List Letter)
  | inputMissing
  | unrecognized (given : List (List Letter))
  deriving DecidableEq, Repr

namespace Complaint

def about (flag : Flag) (text : List Char) : List Letter :=
  Letter.ofChars ("argument ".toList ++ flag.label ++ ": ".toList ++ text)

def message : Complaint → List Letter
  | .ambiguous given meant =>
      Letter.ofString "ambiguous option: " ++ given ++ Letter.ofString " could match " ++
        (Letter.ofString ", ").intercalate meant
  | .valueMissing flag => about flag "expected one argument".toList
  | .valueIgnored flag value => about flag ("ignored explicit argument ".toList ++ Datum.quotedLetters value)
  | .badForm value =>
      about .form ("invalid choice: ".toList ++ Datum.quotedLetters value ++ " (choose from ".toList ++
        Datum.commaSeparated (Form.all.map fun form => Datum.quotedText form.name) ++ [')'])
  | .badAnswer value =>
      about .answer ("expected NAME=yes or NAME=no, got ".toList ++ Datum.quotedLetters value)
  | .inputMissing =>
      Letter.ofChars ("the following arguments are required: ".toList ++ Flag.input.label)
  | .unrecognized given => Letter.ofString "unrecognized arguments: " ++ [Letter.char ' '].intercalate given

end Complaint

end Triage.Command
