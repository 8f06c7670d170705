import Triage.Proofs.Text.Lines
import Triage.Proofs.Text.Whole
import Triage.Source.Lines
import Triage.Source.Sections

namespace Triage.Section
open Triage.Text

theorem opening_lettered (part : Section) : Lettered part.opening := by cases part <;> decide

theorem closing_lettered (part : Section) : Lettered part.closing := by cases part <;> decide

end Triage.Section

namespace Triage.Source
open Triage.Text

theorem nextOpening?_break (apart : isWord c = false) : nextOpening? inside (c :: text) = nextOpening? false text := by
  have none : Section.all.findSome? (fun part =>
      (wholeWord? part.opening inside (c :: text)).map fun rest => (part, rest)) = none := by
    rw [List.findSome?_eq_none_iff]
    intro part _
    rw [wholeWord?_break (show opensWord (c :: text) = false from apart) part.opening_lettered]
    rfl
  rw [nextOpening?, none, apart]

theorem nextOpening?_opening (part : Section) (closes : opensWord rest = false) :
    nextOpening? false (part.opening ++ rest) = some (part, rest) := by
  cases part <;>
    simp [nextOpening?, Section.all, Section.opening, Section.name, wholeWord?, afterStart?, closes]

theorem bodies_none (missed : nextOpening? inside text = none) : bodies inside text = [] := by
  rw [bodies]
  split
  · rfl
  · rename_i opening
    rw [missed] at opening
    cases opening

theorem bodies_unclosed (opening : nextOpening? inside text = some (part, rest))
    (missed : cutWord? part.closing true rest = none) : bodies inside text = bodies true rest := by
  rw [bodies]
  split
  · rename_i found
    rw [opening] at found
    cases found
  · rename_i found
    rw [opening] at found
    cases found
    split
    · rfl
    · rename_i closing
      rw [missed] at closing
      cases closing

theorem bodies_closed (opening : nextOpening? inside text = some (part, rest))
    (closing : cutWord? part.closing true rest = some (enclosed, after)) :
    bodies inside text = (part, trim enclosed) :: bodies true after := by
  rw [bodies]
  split
  · rename_i found
    rw [opening] at found
    cases found
  · rename_i found
    rw [opening] at found
    cases found
    split
    · rename_i missed
      rw [closing] at missed
      cases missed
    · rename_i found
      rw [closing] at found
      cases found
      rfl

-- Which sections there are depends on the next opening alone.
theorem bodies_congr (same : nextOpening? inside text = nextOpening? before rest) :
    bodies inside text = bodies before rest := by
  cases opening : nextOpening? before rest with
  | none => rw [bodies_none opening, bodies_none (same.trans opening)]
  | some found =>
      obtain ⟨part, rest⟩ := found
      cases closing : cutWord? part.closing true rest with
      | none => rw [bodies_unclosed opening closing, bodies_unclosed (same.trans opening) closing]
      | some cut => rw [bodies_closed opening closing, bodies_closed (same.trans opening) closing]

theorem bodies_break (apart : isWord c = false) : bodies inside (c :: text) = bodies false text :=
  bodies_congr (nextOpening?_break apart)

variable {lines : List (List Char)}

def block (lines : List (List Char)) : List Char :=
  '\n' :: (lines.map (margin ++ ·)).flatMap fun line => line ++ ['\n']

theorem layoutSection_eq (part : Section) (lines : List (List Char)) (rest : List Char) :
    layoutSection part lines ++ rest = part.opening ++ (block lines ++ (part.closing ++ '\n' :: rest)) := by
  simp [layoutSection, block, List.flatMap_map, List.append_assoc]

theorem block_opens (lines : List (List Char)) (rest : List Char) : opensWord (block lines ++ rest) = false := by
  rw [block, List.cons_append]
  exact isWord_newline

theorem block_ends (lines : List (List Char)) : endsWord (block lines) = false := by
  rcases List.eq_nil_or_concat lines with rfl | ⟨earlier, last, rfl⟩
  · rfl
  · have parts : block (earlier ++ [last]) = block earlier ++ (margin ++ last) ++ ['\n'] := by
      simp [block, List.append_assoc]
    rw [List.concat_eq_append, parts, endsWord_append (by simp)]
    rfl

theorem block_open (lettered : Lettered word) (absent : ∀ line ∈ lines, ¬HasWord word line) :
    ¬HasWord word (block lines) := by
  rw [block, hasWord_cons_break isWord_newline lettered]
  induction lines with
  | nil => exact not_hasWord_nil lettered.filled
  | cons line lines ih =>
      have here := absent line (by simp)
      have later := ih fun next member => absent next (by simp [member])
      rw [List.map_cons, List.flatMap_cons, List.append_assoc, List.singleton_append,
        hasWord_append_break isWord_newline lettered, hasWord_append_left (by rfl) lettered]
      exact not_or.mpr ⟨here, later⟩

theorem bodies_layout (unclosed : ∀ line ∈ lines, ¬HasWord part.closing line) (rest : List Char) :
    bodies false (layoutSection part lines ++ rest) = (part, trim (block lines)) :: bodies false rest := by
  have opening : nextOpening? false (part.opening ++ (block lines ++ (part.closing ++ '\n' :: rest))) =
      some (part, block lines ++ (part.closing ++ '\n' :: rest)) :=
    nextOpening?_opening part (block_opens lines _)
  have closing : cutWord? part.closing true (block lines ++ (part.closing ++ '\n' :: rest)) =
      some (block lines, '\n' :: rest) := by
    rw [cutWord?_inside (block_opens lines _) part.closing_lettered]
    exact cutWord?_first (block_open part.closing_lettered unclosed) (block_ends lines) isWord_newline
      part.closing_lettered
  rw [layoutSection_eq, bodies_closed opening closing, bodies_break isWord_newline]

theorem sections_layout (statements : ∀ line ∈ first, ¬HasWord Section.statements.closing line)
    (results : ∀ line ∈ second, ¬HasWord Section.results.closing line)
    (rules : ∀ line ∈ third, ¬HasWord Section.rules.closing line) :
    sections (layoutSection .statements first ++ ['\n'] ++ layoutSection .results second ++ ['\n'] ++
      layoutSection .rules third) = .ok ⟨trim (block first), trim (block second), trim (block third)⟩ := by
  have last := bodies_layout rules []
  rw [List.append_nil] at last
  simp only [sections, List.append_assoc, List.cons_append, List.nil_append, bodies_layout statements,
    bodies_layout results, last, bodies_break isWord_newline]
  rfl

-- The lines of the block are the lines that were laid out, up to the blanks around them.
theorem contentLines_block (plain : ∀ line ∈ lines, '\n' ∉ line) (solid : ∀ line ∈ lines, allBlank line = false) :
    (contentLines (trim (block lines))).map trim = lines.map trim := by
  have plain : ∀ line ∈ lines.map (margin ++ ·), '\n' ∉ line := by
    simpa [margin] using plain
  have solid : ∀ line ∈ lines.map (margin ++ ·), allBlank line = false := by
    simpa [allBlank_append, show allBlank margin = true by rfl] using solid
  have whole := contentLines_lines _ plain solid
  rw [contentLines_trim, block, ← List.singleton_append, contentLines_append_left (by rfl), whole, List.map_map]
  exact List.map_congr_left fun line _ => trim_append_left (by rfl)

end Triage.Source
