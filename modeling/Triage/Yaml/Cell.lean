import Triage.Failure
import Triage.Text.Basic

namespace Triage.Yaml
open Triage.Text

structure Cell where
  char : Char
  line : Nat
  column : Nat
  index : Nat
  deriving DecidableEq, Repr

def endMark : Char := '\x00'

def byteOrderMark : Char := '\ufeff'

def isBreak (c : Char) : Bool := c = '\n' || c = '\r' || c = '\x85' || c = '\u2028' || c = '\u2029'

def isBreakOrEnd (c : Char) : Bool := c = endMark || isBreak c

def isGap (c : Char) : Bool := c = ' ' || c = '\t'

def isSpaceOrBreak (c : Char) : Bool := c = ' ' || isBreakOrEnd c

def isBlankCell (c : Char) : Bool := c = '\t' || isSpaceOrBreak c

def isAllowed (c : Char) : Bool :=
  let n := c.toNat
  n == 0x9 || n == 0xA || n == 0xD || (0x20 ≤ n && n ≤ 0x7E) || n == 0x85 || (0xA0 ≤ n && n ≤ 0xD7FF) ||
    (0xE000 ≤ n && n ≤ 0xFFFD) || 0x10000 ≤ n

-- A break ends a line, two breaks that belong together end one line. A byte order mark takes no
-- column.
def cellsFrom (line column index : Nat) : List Char → List Cell
  | [] => [⟨endMark, line, column, index⟩]
  | c :: text =>
      ⟨c, line, column, index⟩ ::
        if isBreak c && !(c = '\r' && text.head? == some '\n') then cellsFrom (line + 1) 0 (index + 1) text
        else if c = byteOrderMark then cellsFrom line column (index + 1) text
        else cellsFrom line (column + 1) (index + 1) text

def cellsOf (text : List Char) : Except Failure (List Cell) :=
  if text.all isAllowed then
    .ok (match text with
      | '\ufeff' :: rest => cellsFrom 0 0 1 rest
      | _ => cellsFrom 0 0 0 text)
  else .error .badYaml

def peek : List Cell → Char
  | [] => endMark
  | c :: _ => c.char

def peekNext (cells : List Cell) : Char := peek (cells.drop 1)

def columnOf : List Cell → Nat
  | [] => 0
  | c :: _ => c.column

def charsOf (cells : List Cell) : List Char := cells.map Cell.char

def takeBreak : List Cell → List Char × List Cell
  | [] => ([], [])
  | c :: rest =>
      if c.char = '\r' && peek rest = '\n' then (['\n'], rest.drop 1)
      else if c.char = '\u2028' || c.char = '\u2029' then ([c.char], rest)
      else if isBreak c.char then (['\n'], rest)
      else ([], c :: rest)

def isDocumentMark (mark : Char) (cells : List Cell) : Bool :=
  charsOf (cells.take 3) == [mark, mark, mark] && isBlankCell (peek (cells.drop 3))

def isDocumentEdge (cells : List Cell) : Bool := isDocumentMark '-' cells || isDocumentMark '.' cells

theorem takeBreak_length (cells : List Cell) : (takeBreak cells).2.length ≤ cells.length := by
  cases cells with
  | nil => simp [takeBreak]
  | cons c rest =>
      simp only [takeBreak]
      split
      · simp only [List.length_drop, List.length_cons]; omega
      · split
        · simp
        · split <;> simp

theorem takeBreak_shorter (some : isBreak (peek cells) = true) : (takeBreak cells).2.length < cells.length := by
  cases cells with
  | nil => simp [peek, isBreak, endMark] at some
  | cons c rest =>
      simp only [peek] at some
      simp only [takeBreak]
      split
      · simp only [List.length_drop, List.length_cons]; omega
      · split
        · simp
        · simp

inductive Token where
  | version (major : Nat)
  | tagHandle (handle start : List Char)
  | ignoredDirective
  | documentStart
  | documentEnd
  | listStart
  | mapStart
  | blockEnd
  | flowListStart
  | flowListEnd
  | flowMapStart
  | flowMapEnd
  | item
  | comma
  | key
  | value
  | alias (name : List Char)
  | anchor (name : List Char)
  | tag (handle : Option (List Char)) (suffix : List Char)
  | scalar (text : List Char) (plain : Bool)
  -- What follows is no word.
  | broken (failure : Failure)
  deriving DecidableEq, Repr

end Triage.Yaml
