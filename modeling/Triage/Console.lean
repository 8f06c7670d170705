import Triage.Failure
import Triage.Text.Columns

namespace Triage
open Text

-- What is printed for a label and the data behind it. The console may be unable to show some data;
-- where errors go, everything is shown.
structure Console where
  out : String → List Letter → Except Failure (List Letter)
  err : String → List Letter → List Letter

namespace Console

def opensTag : Letter → Bool := Letter.satisfies fun c => ('a' ≤ c && c ≤ 'z') || c = '#' || c = '/' || c = '@'

def isBracket (letter : Letter) : Bool := letter = .char '[' || letter = .char ']'

def tag? : List Letter → Option (List Letter × List Letter)
  | .char '[' :: first :: text =>
      if opensTag first then
        match text.dropWhile fun letter => !isBracket letter with
        | .char ']' :: rest =>
            some (.char '[' :: first :: (text.takeWhile fun letter => !isBracket letter) ++ [.char ']'], rest)
        | _ => none
      else none
  | _ => none

theorem tag?_shorter (found : tag? text = some (tag, rest)) : rest.length < text.length := by
  unfold tag? at found
  split at found
  · split at found
    · split at found
      · rename_i inner _ _ _ remains
        cases found
        have bound : (inner.dropWhile fun letter => !isBracket letter).length ≤ inner.length :=
          List.Sublist.length_le (List.dropWhile_sublist _)
        rw [remains] at bound
        simp only [List.length_cons] at bound ⊢
        omega
      · cases found
    · cases found
  · cases found

def isBackslash (letter : Letter) : Bool := letter = .char '\\'

def withTags : List Letter → List Letter
  | [] => []
  | letter :: text =>
      match _tag : tag? ((letter :: text).dropWhile isBackslash) with
      | some (tag, rest) => (letter :: text).takeWhile isBackslash ++ tag ++ withTags rest
      | none =>
          if isBackslash letter && text.head? == some (.char '[') then .char '[' :: withTags (text.drop 1)
          else letter :: withTags text
termination_by text => text.length
decreasing_by
  · exact Nat.lt_of_lt_of_le (tag?_shorter _tag) (List.Sublist.length_le (List.dropWhile_sublist _))
  · simp only [List.length_drop, List.length_cons]; omega
  · exact Nat.lt_succ_self _

def endsInOneBackslash (text : List Letter) : Bool :=
  match text.reverse with
  | .char '\\' :: .char '\\' :: _ => false
  | .char '\\' :: _ => true
  | _ => false

-- What looks like a tag in the data is protected and shows as it is. The protection is not perfect: a
-- backslash before any other bracket is lost, and one at the very end is doubled.
def shown (data : List Letter) : List Letter :=
  withTags (if endsInOneBackslash data then data ++ [.char '\\'] else data)

def isDropped : Letter → Bool := Letter.satisfies fun c => [7, 8, 11, 12, 13].contains c.toNat

def lineWidth : Nat := 80

def cropped (text : List Letter) : List Letter :=
  let blanks := (text.reverse.takeWhile (Letter.satisfies isBlank)).length
  text.take (text.length - min blanks (text.length - lineWidth))

def line (label : String) (data : List Letter) : List Letter :=
  let text := expandTabs ((Letter.ofString label ++ shown data).filter fun letter => !isDropped letter)
  [Letter.char '\n'].intercalate ((splitAt (.char '\n') text).map cropped) ++ [.char '\n']

def plain : Console where
  out label data := if (Letter.utf8? data).isSome then .ok (line label data) else .error .unencodable
  err := line

end Console

end Triage
