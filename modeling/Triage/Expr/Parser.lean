import Triage.Expr.Basic
import Triage.Fault
import Triage.Text.Basic
import Triage.Text.Word

namespace Triage.Expr
open Triage.Text

def closing? (depth : Nat) : List Char → Option (List Char)
  | [] => none
  | c :: text =>
      if c = ')' then
        match depth with
        | 0 => if text.isEmpty then some [] else none
        | depth + 1 => (closing? depth text).map (c :: ·)
      else (closing? (if c = '(' then depth + 1 else depth) text).map (c :: ·)

def unwrap? : List Char → Option (List Char)
  | '(' :: text => closing? 0 text
  | _ => none

def depthAfter (depth : Int) (c : Char) : Int :=
  if c = '(' then depth + 1 else if c = ')' then depth - 1 else depth

def connective? (inside : Bool) (text : List Char) : Option (Connective × List Char) :=
  match wholeWord? Connective.and.word inside text with
  | some rest => some (.and, rest)
  | none => (wholeWord? Connective.or.word inside text).map fun rest => (.or, rest)

-- The text before and after the first connective at depth zero. The depth may sink below zero, and
-- there too no connective counts.
def splitFrom? (depth : Int) (inside : Bool) : List Char → Option (List Char × Connective × List Char)
  | [] => none
  | c :: text =>
      let here := depthAfter depth c
      match (if here = 0 then connective? inside (c :: text) else none) with
      | some (op, rest) => some ([], op, rest)
      | none => (splitFrom? here (isWord c) text).map fun (left, op, right) => (c :: left, op, right)

def split? (text : List Char) : Option (List Char × Connective × List Char) := splitFrom? 0 false text

def not? (inside : Bool) (text : List Char) : Option (List Char) :=
  if inside then none
  else
    match text with
    | n :: o :: t :: rest =>
        if n.toUpper = 'N' && o.toUpper = 'O' && t.toUpper = 'T' && !opensWord rest then some rest else none
    | _ => none

def withoutNot? (inside : Bool) : List Char → Option (List Char)
  | [] => none
  | c :: text =>
      match not? inside (c :: text) with
      | some rest => some rest
      | none => (withoutNot? (isWord c) text).map (c :: ·)

-- A condition: a name, negated when a NOT stands anywhere in it.
def readCondition (text : List Char) : Except Fault Condition :=
  let (rest, negated) := match withoutNot? false text with
    | some rest => (rest, true)
    | none => (text, false)
  let name := trim rest
  if name.isEmpty then .error (.emptyCondition text) else .ok ⟨Datum.ofChars name, negated⟩

theorem closing?_parts (found : closing? depth text = some inside) : text = inside ++ [')'] := by
  induction text generalizing depth inside with
  | nil => simp [closing?] at found
  | cons c text ih =>
      unfold closing? at found
      split at found
      · rename_i close
        cases depth with
        | zero => cases text <;> simp_all
        | succ depth =>
            simp only [Option.map_eq_some_iff] at found
            obtain ⟨inner, rest, rfl⟩ := found
            simp [ih rest]
      · simp only [Option.map_eq_some_iff] at found
        obtain ⟨inner, rest, rfl⟩ := found
        simp [ih rest]

theorem unwrap?_parts (found : unwrap? text = some inside) : text = '(' :: inside ++ [')'] := by
  unfold unwrap? at found
  split at found
  · simp [closing?_parts found]
  · cases found

theorem connective?_parts (found : connective? inside text = some (op, rest)) : text = op.word ++ rest := by
  unfold connective? at found
  cases conjunct : wholeWord? Connective.and.word inside text with
  | some tail =>
      simp only [conjunct, Option.some.injEq, Prod.mk.injEq] at found
      obtain ⟨rfl, rfl⟩ := found
      exact (wholeWord?_eq_some.mp conjunct).2.1
  | none =>
      simp only [conjunct, Option.map_eq_some_iff, Prod.mk.injEq] at found
      obtain ⟨tail, disjunct, rfl, rfl⟩ := found
      exact (wholeWord?_eq_some.mp disjunct).2.1

theorem splitFrom?_parts (found : splitFrom? depth inside text = some (left, op, right)) :
    text = left ++ op.word ++ right := by
  induction text generalizing depth inside left with
  | nil => simp [splitFrom?] at found
  | cons c text ih =>
      unfold splitFrom? at found
      simp only at found
      split at found
      · rename_i next rest here
        simp only [Option.some.injEq, Prod.mk.injEq] at found
        obtain ⟨rfl, rfl, rfl⟩ := found
        split at here
        · simpa using connective?_parts here
        · cases here
      · simp only [Option.map_eq_some_iff, Prod.exists, Prod.mk.injEq] at found
        obtain ⟨front, next, tail, cut, rfl, rfl, rfl⟩ := found
        simp [ih cut]

theorem split?_shorter (found : split? text = some (left, op, right)) :
    left.length < text.length ∧ right.length < text.length := by
  have parts := congrArg List.length (splitFrom?_parts found)
  have letters : 0 < op.word.length := by cases op <;> decide
  simp only [List.length_append] at parts
  omega

-- There is no precedence: what follows the first connective is its right operand as a whole.
def readTrimmed (text : List Char) : Except Fault Expr :=
  match _wrapped : unwrap? text with
  | some inside => readTrimmed (trim inside)
  | none =>
      match _cut : split? text with
      | some (left, op, right) =>
          if (trim left).isEmpty || (trim right).isEmpty then .error (.missingOperand text)
          else do
            let l ← readTrimmed (trim left)
            let r ← readTrimmed (trim right)
            return .node op l r
      | none => (readCondition text).map .leaf
termination_by text.length
decreasing_by
  · have parts := congrArg List.length (unwrap?_parts _wrapped)
    have bound := trim_length inside
    simp only [List.length_append, List.length_cons, List.length_nil] at parts
    omega
  · exact Nat.lt_of_le_of_lt (trim_length left) (split?_shorter _cut).1
  · exact Nat.lt_of_le_of_lt (trim_length right) (split?_shorter _cut).2

def read (text : List Char) : Except Fault Expr := readTrimmed (trim text)

end Triage.Expr
