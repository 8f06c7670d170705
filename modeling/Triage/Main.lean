import Triage.Command.Run

namespace Triage.Command
open Text

def failureText : Failure → String
  | .undecodable => "the input is not UTF-8"
  | .unencodable => "a text can not be written as UTF-8"
  | .missingFolder | .notFolder => "the folder of the output does not exist"
  | .isFolder => "a folder stands where a file is needed"
  | .longName | .nullInName => "there can be no file of that name"
  | _ => "the input cannot be used"

def readIfThere (name : String) : IO (Option (List UInt8)) := do
  try
    let content ← IO.FS.readBinFile name
    return some content.toList
  catch _ => return none

def fileText (path : Path) : String := String.ofList (Letter.escaped (fullName path []))

-- The working folder as far as the arguments need it: the input, and the folder of the output.
def readFolder (args : List (List Letter)) : IO Folder := do
  let place := resolve [] (encodeUtf8 (← IO.currentDir).toString.toList)
  match Settings.ofArguments args with
  | .error _ => return ⟨place, [], []⟩
  | .ok (settings, input) =>
      let folder : Folder := ⟨place, [], ((Letter.fileName? (outputName settings)).map fun name =>
        (resolve place name).dropLast).toList⟩
      match folder.path? input.shown with
      | some path =>
          match ← readIfThere (fileText path) with
          | some content => return { folder with files := [(path, content)] }
          | none => return folder
      | none => return folder

def writeNew (before after : Folder) : IO Unit :=
  for (path, content) in after.files do
    if (before.files.lookup path).isNone then
      IO.FS.writeBinFile (fileText path) ⟨content.toArray⟩

def execute (args : List (List Letter)) : IO UInt32 := do
  let folder ← readFolder args
  let (ending, desk) := start .plain args folder
  writeNew folder desk.folder
  (← IO.getStderr).putStr (String.ofList (Letter.escaped desk.err))
  (← IO.getStdout).putStr (String.ofList (Letter.escaped desk.out))
  match ending with
  | .error failure =>
      IO.eprintln (failureText failure)
      return 1
  | .ok code => return code.toUInt32

end Triage.Command

def main (args : List String) : IO UInt32 := Triage.Command.execute (args.map Triage.Text.Letter.ofString)
