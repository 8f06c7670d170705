import Triage.Failure
import Triage.Text.Letter
import Triage.Text.Basic

namespace Triage.Command
open Text

section Parts

variable {α : Type} [DecidableEq α]

def enter (dot : α) (path : List (List α)) (part : List α) : List (List α) :=
  if part = [] ∨ part = [dot] then path
  else if part = [dot, dot] then path.dropLast
  else path ++ [part]

def follow (slash dot : α) (place : List (List α)) (name : List α) : List (List α) :=
  (splitAt slash name).foldl (enter dot) (if name.head? = some slash then [] else place)

end Parts

abbrev Path := List (List UInt8)

def slash : UInt8 := '/'.toUInt8

def dot : UInt8 := '.'.toUInt8

def resolve (place : Path) (name : List UInt8) : Path := follow slash dot place name

def spelled (place : Path) (name : List Letter) : List (List Letter) :=
  follow (.char '/') (.char '.') (place.map Letter.ofBytes) name

-- A name from the root on. Exactly two slashes at its start are kept.
def fullName (place : Path) (name : List Letter) : List Letter :=
  let slash := Letter.char '/'
  let path := spelled place name
  let root := if name.take 2 = [slash, slash] ∧ name.take 3 ≠ [slash, slash, slash] then [slash] else []
  root ++ (if path.isEmpty then [slash] else path.flatMap fun part => slash :: part)

structure Folder where
  place : Path
  files : List (Path × List UInt8)
  -- Folders that are there although no file in them is known.
  folders : List Path

namespace Folder

def textOf (content : List UInt8) : Except Failure (List Char) :=
  match decodeUtf8? content with
  | some text => .ok (unifyLineEnds text)
  | none => .error .undecodable

def isFolder (folder : Folder) (path : Path) : Bool :=
  path.isPrefixOf folder.place || folder.folders.any path.isPrefixOf ||
    folder.files.any fun (file, _) => path.isPrefixOf file && path.length < file.length

def path? (folder : Folder) (name : List Letter) : Option Path := (spelled folder.place name).mapM Letter.fileName?

def content? (folder : Folder) (name : List Letter) : Option (List UInt8) := do
  folder.files.lookup (← folder.path? name)

def nameLimit : Nat := 4095

def partLimit : Nat := 255

def isFile (folder : Folder) (path : Path) : Bool := (folder.files.lookup path).isSome

-- One step along a path, from a place that is there. What is not there fails at once, and a file
-- fails as soon as the path goes on behind it.
def advance (folder : Folder) (path : Path) (part : List UInt8) : Except Failure Path :=
  if folder.isFile path then .error .notFolder
  else if partLimit < part.length then .error .longName
  else
    let next := enter dot path part
    if folder.isFolder next || folder.isFile next then .ok next else .error .missingFolder

-- The place of a file to be written. The end of its name has to name the file itself.
def target (folder : Folder) (name : List UInt8) : Except Failure Path := do
  let parts := (splitAt slash name).filter fun part => !part.isEmpty
  let last := parts.getLastD [dot]
  if name.contains 0 then throw .nullInName
  if name.isEmpty then throw .missingFolder
  if nameLimit < name.length then throw .longName
  let around ← parts.dropLast.foldlM folder.advance (if name.head? = some slash then [] else folder.place)
  if folder.isFile around then throw .notFolder
  if name.getLast? = some slash || enter dot around last ≠ around ++ [last] then throw .isFolder
  if partLimit < last.length then throw .longName
  if folder.isFolder (around ++ [last]) then throw .isFolder
  return around ++ [last]

def placeOf (folder : Folder) (name : List Letter) : Except Failure Path :=
  match Letter.fileName? name with
  | some bytes => folder.target bytes
  | none => .error .unencodable

def put (folder : Folder) (path : Path) (content : List UInt8) : Folder :=
  { folder with files := (path, content) :: folder.files.filter fun (file, _) => file != path }

end Folder

-- What was printed so far, and the folder as it is now. All of it stays done, also when a later step
-- of the run fails.
structure Desk where
  out : List Letter
  err : List Letter
  folder : Folder

abbrev Act := ExceptT Failure (StateM Desk)

namespace Act

def runOn (act : Act α) (desk : Desk) : Except Failure α × Desk := StateT.run act.run desk

def print (text : List Letter) : Act Unit := modify fun desk => { desk with out := desk.out ++ text }

def printError (text : List Letter) : Act Unit := modify fun desk => { desk with err := desk.err ++ text }

def openFile (name : List Letter) : Act Path := do
  let desk ← get
  let place ← desk.folder.placeOf name
  set { desk with folder := desk.folder.put place [] }
  return place

-- Writes to a file that was opened. A text without bytes leaves nothing in it.
def fill (place : Path) (text : List Letter) : Act Unit :=
  match Letter.utf8? text with
  | some content => modify fun desk => { desk with folder := desk.folder.put place content }
  | none => throw .unencodable

end Act

end Triage.Command
