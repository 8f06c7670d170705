import Triage.Datum.Display
import Triage.Text.Digits
import Triage.Yaml.Resolve

namespace Triage.Yaml
open Triage.Text

structure Walk where
  seen : List Nat
  repeated : List Nat
  fits : Bool

namespace Walk

def start : Walk := ⟨[], [], true⟩

def meetAgain (w : Walk) (mark : Nat) : Walk :=
  if w.repeated.contains mark then w else { w with repeated := w.repeated ++ [mark] }

mutual

def through (w : Walk) : Datum → Walk
  | .int n => { w with fits := w.fits && Datum.fitsLimit n }
  | .list items => throughItems w items
  | .pair first second => through (through w first) second
  | .object fields => throughFields w fields
  | .shared mark content =>
      if w.seen.contains mark then w.meetAgain mark else through { w with seen := mark :: w.seen } content
  | .again mark => w.meetAgain mark
  | _ => w

def throughItems (w : Walk) : List Datum → Walk
  | [] => w
  | item :: items => throughItems (through w item) items

def throughFields (w : Walk) : List (Datum × Datum) → Walk
  | [] => w
  | (key, value) :: fields => throughFields (through (through w key) value) fields

end

end Walk

def realText (x : Binary64) : List Char :=
  let text := x.text ".inf" ".nan"
  if text.contains 'e' && !text.contains '.' then
    text.takeWhile (· != 'e') ++ ".0".toList ++ text.dropWhile (· != 'e')
  else text

namespace Node

def nameOf (repeated : List Nat) (mark : Nat) : List Char :=
  let digits := decimal (repeated.idxOf mark + 1)
  'i' :: 'd' :: List.replicate (3 - digits.length) '0' ++ digits

mutual

def ofShared (repeated written : List Nat) : Datum → Node × List Nat
  | .null => (.scalar .null "null".toList, written)
  | .bool b => (.scalar .bool (if b then "true" else "false").toList, written)
  | .int n => (.scalar .int (Datum.integerText n), written)
  | .real x => (.scalar .real (realText x), written)
  | .text s => (.scalar .text s.toList, written)
  | .list items =>
      let (nodes, written) := ofItems repeated written items
      (.list .list nodes, written)
  | .pair first second =>
      let (first, written) := ofShared repeated written first
      let (second, written) := ofShared repeated written second
      (.list .list [first, second], written)
  | .object fields =>
      let (nodes, written) := ofFields repeated written fields
      (.map .map nodes, written)
  | .shared mark content =>
      if written.contains mark then (.alias (nameOf repeated mark), written)
      else
        let (node, written) := ofShared repeated (mark :: written) content
        (if repeated.contains mark then .named (nameOf repeated mark) node else node, written)
  | .again mark => (.alias (nameOf repeated mark), written)

def ofItems (repeated written : List Nat) : List Datum → List Node × List Nat
  | [] => ([], written)
  | item :: items =>
      let (node, written) := ofShared repeated written item
      let (nodes, written) := ofItems repeated written items
      (node :: nodes, written)

def ofFields (repeated written : List Nat) : List (Datum × Datum) → List (Node × Node) × List Nat
  | [] => ([], written)
  | (key, value) :: fields =>
      let (key, written) := ofShared repeated written key
      let (value, written) := ofShared repeated written value
      let (nodes, written) := ofFields repeated written fields
      ((key, value) :: nodes, written)

end

def ofDatum (d : Datum) : Node := (ofShared (Walk.start.through d).repeated [] d).1

end Node

end Triage.Yaml
