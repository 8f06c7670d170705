import Triage.Page.Render
import Triage.Proofs.Text.Search

namespace Triage.Page
open Triage.Text

def isMark (c : Char) : Bool := c == '<' || c == '>' || c == '"' || c == '\x27'

theorem escapeChar_unmarked (c : Char) : ∀ d ∈ escapeChar c, isMark d = false := by
  unfold escapeChar
  split
  · rename_i plain entity found
    have each : ∀ pair ∈ entities, pair.2.all (!isMark ·) = true := by decide
    simpa using each _ (List.mem_of_find?_eq_some found)
  · rename_i missing
    intro d member
    rw [List.mem_singleton] at member
    subst d
    rw [Bool.eq_false_iff]
    intro mark
    have known : ∃ pair ∈ entities, pair.1 = c := by
      simp only [isMark, Bool.or_eq_true, beq_iff_eq, or_assoc] at mark
      rcases mark with rfl | rfl | rfl | rfl <;> decide
    obtain ⟨pair, inEntities, same⟩ := known
    exact absurd same (by simpa using List.find?_eq_none.mp missing pair inEntities)

theorem escape_unmarked (text : List Char) : ∀ c ∈ escape text, isMark c = false := by
  intro c member
  obtain ⟨d, _, here⟩ := List.mem_flatMap.mp member
  exact escapeChar_unmarked d c here

theorem entities_apart : ∀ pair ∈ entities, ∀ other ∈ entities, pair.2 <+: other.2 → pair = other := by
  decide

theorem unescape_entity (known : (plain, entity) ∈ entities) (rest : List Char) :
    unescape (entity ++ rest) = plain :: unescape rest := by
  obtain ⟨c, more, parts⟩ : ∃ c more, entity = c :: more := by
    have each : ∀ pair ∈ entities, pair.2 ≠ [] := by decide
    exact List.exists_cons_of_ne_nil (each _ known)
  rw [parts, List.cons_append, unescape]
  split
  · rename_i _ _ found
    obtain ⟨pair, member, here⟩ := List.exists_of_findSome?_eq_some found
    simp only [Option.map_eq_some_iff, Prod.mk.injEq] at here
    obtain ⟨tail, starts, rfl, rfl⟩ := here
    have text := afterStart?_eq_some.mp starts
    rw [← List.cons_append, ← parts] at text
    have same : (plain, entity) = pair := by
      have first : pair.2 <+: entity ++ rest := ⟨tail, text.symm⟩
      rcases List.prefix_or_prefix_of_prefix (List.prefix_append entity rest) first with shorter | longer
      · exact entities_apart _ known pair member shorter
      · exact (entities_apart pair member _ known longer).symm
    subst same
    rw [List.append_cancel_left text]
  · rename_i missing
    have none := List.findSome?_eq_none_iff.mp missing _ known
    simp only [Option.map_eq_none_iff, afterStart?_eq_none, parts] at none
    exact absurd ⟨rest, rfl⟩ none

theorem unescape_plain (plain : c ≠ '&') (rest : List Char) : unescape (c :: rest) = c :: unescape rest := by
  have absent : ∀ pair ∈ entities, afterStart? pair.2 (c :: rest) = none := by
    have each : ∀ pair ∈ entities, ∃ more, pair.2 = '&' :: more := by
      simp [entities]
    intro pair member
    obtain ⟨more, parts⟩ := each pair member
    rw [parts, afterStart?, if_neg plain.symm]
  rw [unescape]
  split
  · rename_i found
    obtain ⟨pair, member, here⟩ := List.exists_of_findSome?_eq_some found
    simp [absent pair member] at here
  · rfl

theorem unescape_escapeChar (c : Char) (rest : List Char) : unescape (escapeChar c ++ rest) = c :: unescape rest := by
  unfold escapeChar
  split
  · rename_i plain entity found
    have same : plain = c := by simpa using List.find?_some found
    subst plain
    exact unescape_entity (List.mem_of_find?_eq_some found) rest
  · rename_i missing
    apply unescape_plain
    rintro rfl
    exact absurd missing (by decide)

theorem unescape_escape (text : List Char) : unescape (escape text) = text := by
  induction text with
  | nil => rw [escape, List.flatMap_nil, unescape]
  | cons c text ih => rw [escape, List.flatMap_cons, unescape_escapeChar, ← escape, ih]

end Triage.Page
