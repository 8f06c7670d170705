import Triage.Yaml.Quoted

namespace Triage.Yaml
open Triage.Text

def isFlowMark (c : Char) : Bool := [',', '[', ']', '{', '}'].contains c

def endsPlain (inFlow : Bool) (c : Char) (rest : List Cell) : Bool :=
  isBlankCell c || (c = ':' && (isBlankCell (peek rest) || (inFlow && isFlowMark (peek rest)))) ||
    (inFlow && (c = '?' || isFlowMark c))

def takeRun (inFlow : Bool) : List Cell → List Char × List Cell
  | [] => ([], [])
  | c :: rest =>
      if endsPlain inFlow c.char rest then ([], c :: rest)
      else ((c.char :: (takeRun inFlow rest).1), (takeRun inFlow rest).2)

def afterSpaces (cells : List Cell) : List Cell := cells.dropWhile fun c => c.char = ' '

theorem afterSpaces_length (cells : List Cell) : (afterSpaces cells).length ≤ cells.length :=
  List.Sublist.length_le (List.dropWhile_sublist _)

def takePlainBreaks (cells : List Cell) : Option (List Char) × List Cell :=
  if isDocumentEdge cells then (none, cells)
  else if _more : isBreak (peek (afterSpaces cells)) = true then
    let (breaks, rest) := takePlainBreaks (takeBreak (afterSpaces cells)).2
    (breaks.map ((takeBreak (afterSpaces cells)).1 ++ ·), rest)
  else (some [], afterSpaces cells)
termination_by cells.length
decreasing_by exact Nat.lt_of_lt_of_le (takeBreak_shorter _more) (afterSpaces_length _)

-- What stands between two words of a plain scalar: a text, which is empty where the scalar has to
-- end, and whether there is a line break in it.
structure PlainGap where
  text : List Char
  broken : Bool
  rest : List Cell

def takePlainGap (cells : List Cell) : PlainGap :=
  if isBreak (peek (afterSpaces cells)) then
    let (breaks, rest) := takePlainBreaks (takeBreak (afterSpaces cells)).2
    ⟨(breaks.map (foldBreaks (takeBreak (afterSpaces cells)).1)).getD [], true, rest⟩
  else ⟨charsOf (cells.takeWhile fun c => c.char = ' '), false, afterSpaces cells⟩

theorem takeRun_length (inFlow : Bool) (cells : List Cell) :
    (takeRun inFlow cells).1.length + (takeRun inFlow cells).2.length = cells.length := by
  induction cells with
  | nil => rfl
  | cons c rest ih =>
      simp only [takeRun]
      split
      · simp
      · simp only [List.length_cons]; omega

theorem takePlainBreaks_length (cells : List Cell) : (takePlainBreaks cells).2.length ≤ cells.length := by
  fun_induction takePlainBreaks cells with
  | case1 => exact Nat.le_refl _
  | case2 cells _ more _ _ taken ih =>
      have inner := takeBreak_length (afterSpaces cells)
      have outer := afterSpaces_length cells
      rw [taken] at ih
      simp only at ih ⊢
      omega
  | case3 cells => exact afterSpaces_length cells

theorem takePlainGap_length (cells : List Cell) : (takePlainGap cells).rest.length ≤ cells.length := by
  simp only [takePlainGap]
  split
  · exact Nat.le_trans (takePlainBreaks_length _) (Nat.le_trans (takeBreak_length _) (afterSpaces_length _))
  · exact afterSpaces_length _

def takePlain (inFlow : Bool) (indent : Nat) (cells : List Cell) : List Char × Bool × List Cell :=
  if _empty : peek cells = '#' ∨ (takeRun inFlow cells).1 = [] then ([], false, cells)
  else
    let run := takeRun inFlow cells
    let gap := takePlainGap run.2
    if gap.text.isEmpty || peek gap.rest = '#' || (!inFlow && columnOf gap.rest < indent) then
      (run.1, gap.broken, gap.rest)
    else
      match takePlain inFlow indent gap.rest with
      | ([], _, _) => (run.1, gap.broken, gap.rest)
      | (text, broken, rest) => (run.1 ++ gap.text ++ text, broken, rest)
termination_by cells.length
decreasing_by
  have whole := takeRun_length inFlow cells
  have gap := takePlainGap_length (takeRun inFlow cells).2
  have some := List.length_pos_iff.mpr fun h => _empty (.inr h)
  omega

inductive Chomp where
  | clip
  | strip
  | keep
  deriving DecidableEq, Repr

def chomp? (c : Char) : Option Chomp :=
  if c = '+' then some .keep else if c = '-' then some .strip else none

def takeWidth (cells : List Cell) : Scanned (Option Nat) :=
  if isDigit (peek cells) then
    if peek cells = '0' then .error .badYaml else .ok (digitValue? 10 (peek cells), cells.drop 1)
  else .ok (none, cells)

def takeHeader (cells : List Cell) : Scanned (Chomp × Option Nat) :=
  match chomp? (peek cells) with
  | some chomp => (takeWidth (cells.drop 1)).map fun (width, rest) => ((chomp, width), rest)
  | none =>
      match takeWidth cells with
      | .error failure => .error failure
      | .ok (none, rest) => .ok ((.clip, none), rest)
      | .ok (width, rest) =>
          match chomp? (peek rest) with
          | some chomp => .ok ((chomp, width), rest.drop 1)
          | none => .ok ((.clip, width), rest)

def afterComment (cells : List Cell) : Except Failure (List Cell) :=
  let rest := afterSpaces cells
  let rest := if peek rest = '#' then rest.dropWhile fun c => !isBreakOrEnd c.char else rest
  if isBreakOrEnd (peek rest) then .ok (takeBreak rest).2 else .error .badYaml

def skipIndent (indent : Nat) (cells : List Cell) : List Cell :=
  cells.dropWhile fun c => c.char = ' ' && c.column < indent

def takeBlockBreaks (indent : Nat) (cells : List Cell) : List Char × List Cell :=
  if _more : isBreak (peek (skipIndent indent cells)) = true then
    let (breaks, rest) := takeBlockBreaks indent (takeBreak (skipIndent indent cells)).2
    ((takeBreak (skipIndent indent cells)).1 ++ breaks, rest)
  else ([], skipIndent indent cells)
termination_by cells.length
decreasing_by
  exact Nat.lt_of_lt_of_le (takeBreak_shorter _more) (List.Sublist.length_le (List.dropWhile_sublist _))

def takeFirstBreaks (cells : List Cell) : List Char × Nat × List Cell :=
  if _more : isBreak (peek (afterSpaces cells)) = true then
    let (breaks, widest, rest) := takeFirstBreaks (takeBreak (afterSpaces cells)).2
    ((takeBreak (afterSpaces cells)).1 ++ breaks, max widest (columnOf (afterSpaces cells)), rest)
  else ([], columnOf (afterSpaces cells), afterSpaces cells)
termination_by cells.length
decreasing_by exact Nat.lt_of_lt_of_le (takeBreak_shorter _more) (afterSpaces_length _)

theorem takeBlockBreaks_length (indent : Nat) (cells : List Cell) :
    (takeBlockBreaks indent cells).2.length ≤ cells.length := by
  fun_induction takeBlockBreaks indent cells with
  | case1 cells _ _ _ taken ih =>
      have inner := takeBreak_length (skipIndent indent cells)
      have outer : (skipIndent indent cells).length ≤ cells.length :=
        List.Sublist.length_le (List.dropWhile_sublist _)
      rw [taken] at ih
      simp only at ih ⊢
      omega
  | case2 cells => exact List.Sublist.length_le (List.dropWhile_sublist _)

structure BlockLines where
  text : List Char
  lastBreak : List Char
  breaks : List Char
  rest : List Cell

-- Reads lines while they stand at the block's indentation. Of a folded block, a break between two
-- lines that start with no blank becomes a space, or nothing before empty lines.
def takeLines (folded : Bool) (indent : Nat) : List Cell → BlockLines
  | [] => ⟨[], [], [], []⟩
  | c :: more =>
      let line := c.char :: charsOf (more.takeWhile fun c => !isBreakOrEnd c.char)
      let ending := takeBreak (more.dropWhile fun c => !isBreakOrEnd c.char)
      let next := takeBlockBreaks indent ending.2
      if columnOf next.2 = indent ∧ peek next.2 ≠ endMark then
        let joint :=
          if folded && ending.1 == ['\n'] && !isGap c.char && !isGap (peek next.2) then
            if next.1.isEmpty then [' '] else []
          else ending.1
        let following := takeLines folded indent next.2
        { following with text := line ++ joint ++ next.1 ++ following.text }
      else ⟨line, ending.1, next.1, next.2⟩
termination_by cells => cells.length
decreasing_by
  have breaks := takeBlockBreaks_length indent (takeBreak (more.dropWhile fun c => !isBreakOrEnd c.char)).2
  have ending := takeBreak_length (more.dropWhile fun c => !isBreakOrEnd c.char)
  have line : (more.dropWhile fun c => !isBreakOrEnd c.char).length ≤ more.length :=
    List.Sublist.length_le (List.dropWhile_sublist _)
  simp only [List.length_cons]
  omega

def takeBlock (folded : Bool) (least : Nat) (cells : List Cell) : Except Failure (List Char × List Cell) := do
  let ((chomp, width), rest) ← takeHeader cells
  if !isSpaceOrBreak (peek rest) then throw .badYaml
  let start ← afterComment rest
  let (first, indent, body) := match width with
    | some width =>
        let (breaks, rest) := takeBlockBreaks (least + width - 1) start
        (breaks, least + width - 1, rest)
    | none =>
        let (breaks, widest, rest) := takeFirstBreaks start
        (breaks, max least widest, rest)
  let found : BlockLines :=
    if columnOf body = indent ∧ peek body ≠ endMark then
      let found := takeLines folded indent body
      { found with text := first ++ found.text }
    else ⟨[], [], first, body⟩
  return (found.text ++ (if chomp = .strip then [] else found.lastBreak) ++
    (if chomp = .keep then found.breaks else []), found.rest)

end Triage.Yaml
