import Triage.Text.Digits
import Triage.Yaml.Cell

namespace Triage.Yaml
open Triage.Text

abbrev Scanned (α : Type) := Except Failure (α × List Cell)

def afterGap (cells : List Cell) : List Cell := cells.dropWhile fun c => isGap c.char

theorem afterGap_length (cells : List Cell) : (afterGap cells).length ≤ cells.length :=
  List.Sublist.length_le (List.dropWhile_sublist _)

theorem afterGap_shorter (more : List Cell) (starts : isGap c.char = true) :
    (afterGap (c :: more)).length < (c :: more).length := by
  have inner := afterGap_length more
  simp only [afterGap, List.dropWhile_cons, starts, if_true, List.length_cons] at inner ⊢
  omega

def takeEmptyLines (cells : List Cell) : Scanned (List Char) :=
  if isDocumentEdge cells then .error .badYaml
  else if _more : isBreak (peek (afterGap cells)) = true then
    match takeEmptyLines (takeBreak (afterGap cells)).2 with
    | .ok (breaks, rest) => .ok ((takeBreak (afterGap cells)).1 ++ breaks, rest)
    | .error failure => .error failure
  else .ok ([], afterGap cells)
termination_by cells.length
decreasing_by exact Nat.lt_of_lt_of_le (takeBreak_shorter _more) (afterGap_length _)

-- A line break and the empty lines after it, as they count inside a text.
def foldBreaks (first breaks : List Char) : List Char :=
  if first ≠ ['\n'] then first ++ breaks
  else if breaks.isEmpty then [' '] else breaks

def takeFold (cells : List Cell) : Scanned (List Char) :=
  match takeEmptyLines (takeBreak cells).2 with
  | .ok (breaks, rest) => .ok (foldBreaks (takeBreak cells).1 breaks, rest)
  | .error failure => .error failure

def takeQuotedGap (cells : List Cell) : Scanned (List Char) :=
  if peek (afterGap cells) = endMark then .error .badYaml
  else if isBreak (peek (afterGap cells)) then takeFold (afterGap cells)
  else .ok (charsOf (cells.takeWhile fun c => isGap c.char), afterGap cells)

def readEscapes : List (Char × Char) := [
  ('0', '\x00'), ('a', '\x07'), ('b', '\x08'), ('t', '\t'), ('\t', '\t'), ('n', '\n'), ('v', '\x0b'),
  ('f', '\x0c'), ('r', '\r'), ('e', '\x1b'), (' ', ' '), ('"', '"'), ('\\', '\\'), ('/', '/'),
  ('N', '\x85'), ('_', '\xa0'), ('L', '\u2028'), ('P', '\u2029')]

def escapeWidth? (c : Char) : Option Nat :=
  if c = 'x' then some 2 else if c = 'u' then some 4 else if c = 'U' then some 8 else none

-- A half of a pair is no character: texts hold none, and its escape is refused. A code point past the
-- last one is an error of its own, and so is one that takes more than 31 bits.
def codeChar (code : Nat) : Except Failure Char :=
  if 0xD800 ≤ code && code < 0xE000 then .error .unencodable
  else if code < 0x110000 then .ok (Char.ofNat code)
  else if code < 0x80000000 then .error (.badNumber "chr() arg not in range(0x110000)".toList)
  else .error .overflow

def takeCode (width : Nat) (cells : List Cell) : Scanned (List Char) :=
  if (cells.take width).length < width then .error .badYaml
  else
    match readDigits? 16 (charsOf (cells.take width)) with
    | none => .error .badYaml
    | some code => (codeChar code).map fun plain => ([plain], cells.drop width)

def takeEscape (cells : List Cell) : Scanned (List Char) :=
  match readEscapes.lookup (peek cells) with
  | some plain => .ok ([plain], cells.drop 1)
  | none =>
      match escapeWidth? (peek cells) with
      | some width => takeCode width (cells.drop 1)
      | none => if isBreak (peek cells) then takeEmptyLines (takeBreak cells).2 else .error .badYaml

theorem takeEmptyLines_length (found : takeEmptyLines cells = .ok (breaks, rest)) :
    rest.length ≤ cells.length := by
  fun_induction takeEmptyLines cells generalizing breaks rest with
  | case1 => cases found
  | case2 cells _ more _ _ scanned ih =>
      cases found
      have inner := ih scanned
      have shorter := takeBreak_shorter more
      have drop := afterGap_length cells
      omega
  | case3 => cases found
  | case4 cells =>
      cases found
      exact afterGap_length _

theorem takeFold_shorter (found : takeFold cells = .ok (gap, rest)) (starts : isBreak (peek cells) = true) :
    rest.length < cells.length := by
  unfold takeFold at found
  split at found
  · rename_i scanned
    cases found
    exact Nat.lt_of_le_of_lt (takeEmptyLines_length scanned) (takeBreak_shorter starts)
  · cases found

theorem takeQuotedGap_parts (found : takeQuotedGap cells = .ok (gap, rest)) :
    (isBreak (peek (afterGap cells)) = true ∧ rest.length < (afterGap cells).length) ∨
      (isBreak (peek (afterGap cells)) = false ∧ rest = afterGap cells) := by
  simp only [takeQuotedGap] at found
  by_cases ends : peek (afterGap cells) = endMark
  · simp [ends] at found
  · by_cases starts : isBreak (peek (afterGap cells)) = true
    · simp only [ends, starts, if_true, if_false] at found
      exact .inl ⟨starts, takeFold_shorter found starts⟩
    · simp only [ends, starts, if_false, Bool.false_eq_true, Except.ok.injEq, Prod.mk.injEq] at found
      exact .inr ⟨by simpa using starts, found.2.symm⟩

theorem takeQuotedGap_shorter (found : takeQuotedGap (c :: more) = .ok (gap, rest))
    (starts : isGap c.char = true ∨ isBreak c.char = true) : rest.length < (c :: more).length := by
  have bound := afterGap_length (c :: more)
  by_cases blank : isGap c.char = true
  · have shorter := afterGap_shorter more blank
    rcases takeQuotedGap_parts found with ⟨_, inner⟩ | ⟨_, rfl⟩ <;> omega
  · have same : afterGap (c :: more) = c :: more := by simp [afterGap, blank]
    rcases takeQuotedGap_parts found with ⟨_, inner⟩ | ⟨other, _⟩
    · omega
    · rw [same] at other
      simp_all [peek]

theorem takeCode_length (found : takeCode width cells = .ok (text, rest)) : rest.length ≤ cells.length := by
  unfold takeCode at found
  split at found
  · cases found
  · split at found
    · cases found
    · rename_i code _
      cases known : codeChar code with
      | error failure => simp [known, Except.map] at found
      | ok plain =>
          simp only [known, Except.map, Except.ok.injEq, Prod.mk.injEq] at found
          simp [← found.2]

theorem takeEscape_length (found : takeEscape cells = .ok (text, rest)) : rest.length ≤ cells.length := by
  unfold takeEscape at found
  split at found
  · cases found; simp
  · split at found
    · have inner := takeCode_length found
      simp at inner
      omega
    · split at found
      · exact Nat.le_trans (takeEmptyLines_length found) (takeBreak_length cells)
      · cases found

def takeSingle (cells : List Cell) : Scanned (List Char) :=
  match cells with
  | [] => .error .badYaml
  | c :: rest =>
      if c.char = '\x27' then
        if peek rest = '\x27' then
          match takeSingle (rest.drop 1) with
          | .ok (text, after) => .ok ('\x27' :: text, after)
          | .error failure => .error failure
        else .ok ([], rest)
      else if _gap : isGap c.char = true ∨ isBreak c.char = true then
        match _taken : takeQuotedGap (c :: rest) with
        | .ok (gap, after) =>
            match takeSingle after with
            | .ok (text, after) => .ok (gap ++ text, after)
            | .error failure => .error failure
        | .error failure => .error failure
      else if c.char = endMark then .error .badYaml
      else
        match takeSingle rest with
        | .ok (text, after) => .ok (c.char :: text, after)
        | .error failure => .error failure
termination_by cells.length
decreasing_by
  · simp only [List.length_drop, List.length_cons]; omega
  · exact takeQuotedGap_shorter _taken _gap
  · simp

def takeDouble (cells : List Cell) : Scanned (List Char) :=
  match cells with
  | [] => .error .badYaml
  | c :: rest =>
      if c.char = '"' then .ok ([], rest)
      else if c.char = '\\' then
        match _escape : takeEscape rest with
        | .ok (plain, after) =>
            match takeDouble after with
            | .ok (text, after) => .ok (plain ++ text, after)
            | .error failure => .error failure
        | .error failure => .error failure
      else if _gap : isGap c.char = true ∨ isBreak c.char = true then
        match _taken : takeQuotedGap (c :: rest) with
        | .ok (gap, after) =>
            match takeDouble after with
            | .ok (text, after) => .ok (gap ++ text, after)
            | .error failure => .error failure
        | .error failure => .error failure
      else if c.char = endMark then .error .badYaml
      else
        match takeDouble rest with
        | .ok (text, after) => .ok (c.char :: text, after)
        | .error failure => .error failure
termination_by cells.length
decreasing_by
  · have bound := takeEscape_length _escape
    simp only [List.length_cons]; omega
  · exact takeQuotedGap_shorter _taken _gap
  · simp

end Triage.Yaml
