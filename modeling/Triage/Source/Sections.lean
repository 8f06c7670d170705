import Triage.Fault
import Triage.Text.Basic
import Triage.Text.Word

namespace Triage.Source
open Triage.Text

def nextOpening? (inside : Bool) : List Char → Option (Section × List Char)
  | [] => none
  | c :: text =>
      match Section.all.findSome? fun part =>
          (wholeWord? part.opening inside (c :: text)).map fun rest => (part, rest) with
      | some found => some found
      | none => nextOpening? (isWord c) text

theorem nextOpening?_shorter (found : nextOpening? inside text = some (part, rest)) :
    rest.length < text.length := by
  induction text generalizing inside with
  | nil => simp [nextOpening?] at found
  | cons c text ih =>
      unfold nextOpening? at found
      split at found
      · rename_i opening here
        cases found
        obtain ⟨kind, _, opens⟩ := List.exists_of_findSome?_eq_some here
        simp only [Option.map_eq_some_iff, Prod.mk.injEq] at opens
        obtain ⟨tail, whole, rfl, rfl⟩ := opens
        have split := congrArg List.length (wholeWord?_eq_some.mp whole).2.1
        have letters : 0 < kind.opening.length := by cases kind <;> decide
        simp only [List.length_append, List.length_cons] at split ⊢
        omega
      · have shorter := ih found
        simp only [List.length_cons]
        omega

theorem cutWord?_shorter (found : cutWord? word inside text = some (before, rest)) :
    rest.length ≤ text.length := by
  have parts := congrArg List.length (cutWord?_parts found)
  simp only [List.length_append] at parts
  omega

-- A section is passed over as a whole, so that a word inside it opens nothing, and an opening word that
-- is never closed is no section.
def bodies (inside : Bool) (text : List Char) : List (Section × List Char) :=
  match _opening : nextOpening? inside text with
  | none => []
  | some (part, rest) =>
      match _closing : cutWord? part.closing true rest with
      | none => bodies true rest
      | some (body, after) => (part, trim body) :: bodies true after
termination_by text.length
decreasing_by
  · exact nextOpening?_shorter _opening
  · exact Nat.lt_of_le_of_lt (cutWord?_shorter _closing) (nextOpening?_shorter _opening)

structure Sections where
  statements : List Char
  results : List Char
  rules : List Char
  deriving DecidableEq, Repr

def body (found : List (Section × List Char)) (part : Section) : Except Fault (List Char) :=
  match found.find? fun (kind, _) => kind == part with
  | some (_, text) => .ok text
  | none => .error (.missingSection part)

def sections (text : List Char) : Except Fault Sections := do
  let found := bodies false text
  return ⟨← body found .statements, ← body found .results, ← body found .rules⟩

end Triage.Source
