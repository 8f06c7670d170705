import Triage.Proofs.Source.Sections

namespace Triage.Source
open Triage.Text

def StandsAfter (text front word : List Char) : Prop := ∃ back, Whole text front word back

-- A part of the text in which no section opens: an opening word that lies in it is closed nowhere
-- in the text behind it.
def Idle (text front gap : List Char) : Prop :=
  ∀ (part : Section) (inner rest : List Char), gap = inner ++ part.opening ++ rest →
    StandsAfter text (front ++ inner) part.opening →
    ∀ later, ¬StandsAfter text (front ++ inner ++ part.opening ++ later) part.closing

structure Encloses (text front : List Char) (part : Section) (enclosed : List Char) : Prop where
  opens : StandsAfter text front part.opening
  closes : StandsAfter text (front ++ part.opening ++ enclosed) part.closing
  unclosed : ∀ inner rest, enclosed = inner ++ part.closing ++ rest →
    ¬StandsAfter text (front ++ part.opening ++ inner) part.closing

-- From its first part on, a text consists of gaps and of these sections, in this order.
inductive Sectioned (text : List Char) : List Char → List (Section × List Char) → Prop where
  | done (parts : text = front ++ gap) (idle : Idle text front gap) : Sectioned text front []
  | next (idle : Idle text front gap) (encloses : Encloses text (front ++ gap) part enclosed)
      (more : Sectioned text (front ++ gap ++ part.opening ++ enclosed ++ part.closing) found) :
      Sectioned text front ((part, enclosed) :: found)

def FirstBody (part : Section) (enclosed : List Char) (found : List (Section × List Char)) : Prop :=
  ∃ earlier later, found = earlier ++ (part, enclosed) :: later ∧ ∀ piece ∈ earlier, piece.1 ≠ part

-- The rest of a text holds the same whole words by itself, as long as it opens no word.
theorem standsAfter_iff (opens : opensWord rest = false) (lettered : Lettered word) :
    StandsAfter (front ++ rest) (front ++ before) word ↔ ∃ after, Whole rest before word after := by
  constructor
  · rintro ⟨after, whole⟩
    have parts : rest = before ++ word ++ after := by simpa using whole.parts
    have wide : Whole (front ++ rest) (front ++ before) word (after ++ []) := by rwa [List.append_nil]
    exact ⟨after, parts ▸ wide.inner⟩
  · rintro ⟨after, whole⟩
    have wide : Whole (front ++ rest ++ []) (front ++ before) word (after ++ []) :=
      whole.embed lettered (Or.inr opens) (Or.inr rfl)
    rw [List.append_nil, List.append_nil] at wide
    exact ⟨after, wide⟩

theorem unclosed_iff (opens : opensWord rest = false) (lettered : Lettered word) :
    (∀ later, ¬StandsAfter (front ++ rest) (front ++ later) word) ↔ ¬HasWord word rest := by
  simp only [standsAfter_iff opens lettered, HasWord, not_exists]

theorem nextOpening?_pass (absent : ∀ part : Section, ¬StandsAfter (front ++ c :: rest) front part.opening) :
    nextOpening? (endsWord front) (c :: rest) = nextOpening? (isWord c) rest := by
  have none : Section.all.findSome? (fun part =>
      (wholeWord? part.opening (endsWord front) (c :: rest)).map fun rest => (part, rest)) = none := by
    rw [List.findSome?_eq_none_iff]
    intro part _
    rw [Option.map_eq_none_iff]
    cases found : wholeWord? part.opening (endsWord front) (c :: rest) with
    | none => rfl
    | some back =>
        obtain ⟨apart, parts, closes⟩ := wholeWord?_eq_some.mp found
        exact absurd ⟨back, by rw [parts, List.append_assoc], apart, closes⟩ (absent part)
  rw [nextOpening?, none]

theorem bodies_pass (absent : ∀ part : Section, ¬StandsAfter (front ++ c :: rest) front part.opening) :
    bodies (endsWord front) (c :: rest) = bodies (endsWord (front ++ [c])) rest := by
  rw [bodies_congr (nextOpening?_pass absent), endsWord_append (by simp), endsWord_singleton]

theorem bodies_abandon {part : Section} (opens : Whole text front part.opening rest)
    (unclosed : ∀ later, ¬StandsAfter text (front ++ part.opening ++ later) part.closing) :
    bodies (endsWord front) (part.opening ++ rest) = bodies (endsWord (front ++ part.opening)) rest := by
  rw [opens.parts, unclosed_iff opens.closes part.closing_lettered] at unclosed
  have missed : cutWord? part.closing true rest = none := by
    rw [cutWord?_inside opens.closes part.closing_lettered]
    exact (cutWord?_eq_none part.closing_lettered.filled).mpr unclosed
  rw [opens.opens, bodies_unclosed (nextOpening?_opening part opens.closes) missed, endsWord_word part.opening_lettered]

-- What a section encloses is a text of its own: it neither begins nor ends inside a word, and holds
-- no closing word.
theorem Encloses.parts (encloses : Encloses text front part enclosed) :
    ∃ back, Whole text front part.opening (enclosed ++ (part.closing ++ back)) ∧ opensWord back = false ∧
      endsWord enclosed = false ∧ ¬HasWord part.closing enclosed := by
  obtain ⟨⟨tail, opens⟩, ⟨back, closes⟩, unclosed⟩ := encloses
  obtain rfl : tail = enclosed ++ (part.closing ++ back) := by
    have both := opens.parts.symm.trans closes.parts
    simpa only [List.append_assoc, List.append_cancel_left_eq] using both
  have filled : enclosed ≠ [] := by
    rintro rfl
    have opened := opens.closes
    rw [List.nil_append, opensWord_word part.closing_lettered] at opened
    cases opened
  have first : opensWord enclosed = false := by
    rw [← opensWord_append filled]
    exact opens.closes
  have last : endsWord enclosed = false := by
    rw [← endsWord_append filled]
    exact closes.opens
  refine ⟨back, opens, closes.closes, last, ?_⟩
  rintro ⟨inner, rest, whole⟩
  have wide : Whole (front ++ part.opening ++ enclosed ++ (part.closing ++ back)) (front ++ part.opening ++ inner)
      part.closing (rest ++ (part.closing ++ back)) :=
    whole.embed part.closing_lettered (Or.inr first) (Or.inl last)
  rw [List.append_assoc _ enclosed, ← opens.parts] at wide
  exact unclosed inner rest whole.parts ⟨_, wide⟩

theorem bodies_encloses (encloses : Encloses text front part enclosed)
    (parts : text = front ++ part.opening ++ enclosed ++ part.closing ++ back) :
    bodies (endsWord front) (part.opening ++ (enclosed ++ (part.closing ++ back))) =
      (part, trim enclosed) :: bodies (endsWord (front ++ part.opening ++ enclosed ++ part.closing)) back := by
  obtain ⟨tail, opens, ends, last, absent⟩ := encloses.parts
  obtain rfl : tail = back := by
    have both := opens.parts.symm.trans parts
    simpa only [List.append_assoc, List.append_cancel_left_eq] using both
  have closing : cutWord? part.closing true (enclosed ++ (part.closing ++ tail)) = some (enclosed, tail) := by
    rw [cutWord?_inside opens.closes part.closing_lettered]
    exact cutWord?_first absent last ends part.closing_lettered
  rw [opens.opens, bodies_closed (nextOpening?_opening part opens.closes) closing, endsWord_word part.closing_lettered]

theorem Idle.drop (idle : Idle text front (lead ++ gap)) : Idle text (front ++ lead) gap := by
  intro part inner rest parts stands later
  have parts : lead ++ gap = (lead ++ inner) ++ part.opening ++ rest := by
    rw [parts]
    simp only [List.append_assoc]
  rw [List.append_assoc front lead inner] at stands ⊢
  exact idle part (lead ++ inner) rest parts stands later

theorem bodies_idle (idle : Idle text front gap) (parts : text = front ++ gap ++ back)
    (seam : endsWord (front ++ gap) = false ∨ opensWord back = false) :
    bodies (endsWord front) (gap ++ back) = bodies (endsWord (front ++ gap)) back := by
  induction length : gap.length using Nat.strong_induction_on generalizing front gap with
  | _ size ih =>
    cases gap with
    | nil => rw [List.append_nil, List.nil_append]
    | cons c gap =>
        by_cases opens : ∃ part : Section, StandsAfter text front part.opening
        · obtain ⟨part, tail, whole⟩ := opens
          -- The word does not run over the end of the gap.
          obtain ⟨rest, inGap, rfl⟩ :
              ∃ rest, Whole (front ++ c :: gap) front part.opening rest ∧ tail = rest ++ back := by
            rw [parts] at whole
            rcases whole.split part.opening_lettered seam with inGap | ⟨rest, _, beyond⟩
            · exact inGap
            · simpa using congrArg List.length beyond
          have cut : c :: gap = part.opening ++ rest := by simpa using inGap.parts
          rw [cut] at idle parts seam length ⊢
          have unclosed := idle part [] rest rfl ⟨rest ++ back, by simpa using whole⟩
          rw [List.append_nil] at unclosed
          have letters := List.length_pos_iff.mpr part.opening_lettered.filled
          rw [List.append_assoc, bodies_abandon whole unclosed, ← List.append_assoc front]
          rw [List.length_append] at length
          exact ih rest.length (by omega) idle.drop (by simpa using parts) (by simpa using seam) rfl
        · have parts : text = front ++ c :: (gap ++ back) := by simpa using parts
          have absent : ∀ part : Section, ¬StandsAfter (front ++ c :: (gap ++ back)) front part.opening :=
            fun part stands => opens ⟨part, parts ▸ stands⟩
          have idle : Idle text (front ++ [c]) gap := Idle.drop idle
          rw [List.length_cons] at length
          have later := ih gap.length (by omega) idle (by simpa using parts) (by simpa using seam) rfl
          rw [List.cons_append, bodies_pass absent, later, List.append_assoc, List.singleton_append]

theorem bodies_sectioned (sectioned : Sectioned text front found) (parts : text = front ++ rest) :
    bodies (endsWord front) rest = found.map fun (part, enclosed) => (part, trim enclosed) := by
  induction sectioned generalizing rest with
  | @done front gap whole idle =>
      obtain rfl : rest = gap := List.append_cancel_left (parts.symm.trans whole)
      have passed : bodies (endsWord front) (rest ++ []) = bodies (endsWord (front ++ rest)) [] :=
        bodies_idle idle (by simpa using whole) (Or.inr rfl)
      have nothing : nextOpening? (endsWord (front ++ rest)) [] = none := rfl
      rw [List.append_nil, bodies_none nothing] at passed
      exact passed
  | @next front gap part enclosed found idle encloses _ ih =>
      obtain ⟨back, opens, _⟩ := encloses.parts
      obtain rfl : rest = gap ++ (part.opening ++ (enclosed ++ (part.closing ++ back))) := by
        have both := parts.symm.trans opens.parts
        simpa only [List.append_assoc, List.append_cancel_left_eq] using both
      have whole : text = front ++ gap ++ part.opening ++ enclosed ++ part.closing ++ back := by
        simpa using opens.parts
      rw [bodies_idle idle (by simpa using whole) (Or.inl opens.opens), bodies_encloses encloses whole, ih whole,
        List.map_cons]

theorem exists_encloses {part : Section} (opens : StandsAfter text front part.opening)
    (closes : StandsAfter text (front ++ part.opening ++ later) part.closing) :
    ∃ enclosed, Encloses text front part enclosed := by
  obtain ⟨rest, whole⟩ := opens
  rw [whole.parts, standsAfter_iff whole.closes part.closing_lettered] at closes
  obtain ⟨tail, inside⟩ := closes
  obtain ⟨enclosed, back, first, absent⟩ := HasWord.first ⟨later, tail, inside⟩ part.closing_lettered
  refine ⟨enclosed, ⟨rest, whole⟩, ?_, ?_⟩
  · rw [whole.parts, standsAfter_iff whole.closes part.closing_lettered]
    exact ⟨back, first⟩
  · intro inner more parts stands
    rw [whole.parts, standsAfter_iff whole.closes part.closing_lettered] at stands
    obtain ⟨tail, earlier⟩ := stands
    obtain rfl : tail = more ++ (part.closing ++ back) := by
      have both := earlier.parts.symm.trans first.parts
      simpa only [parts, List.append_assoc, List.append_cancel_left_eq] using both
    have alone : Whole rest ([] ++ inner) part.closing (more ++ (part.closing ++ back)) := earlier
    exact absent ⟨inner, more, parts ▸ alone.inner⟩

-- A gap may begin one character earlier, unless a section does.
theorem Idle.extend (idle : Idle text (front ++ [c]) gap)
    (absent : ¬∃ part enclosed, Encloses text front part enclosed) : Idle text front (c :: gap) := by
  intro part inner rest parts stands later closes
  cases inner with
  | nil =>
      rw [List.append_nil] at stands closes
      obtain ⟨enclosed, encloses⟩ := exists_encloses stands closes
      exact absent ⟨part, enclosed, encloses⟩
  | cons first inner =>
      rw [List.cons_append, List.cons_append, List.cons.injEq] at parts
      obtain ⟨rfl, parts⟩ := parts
      rw [← List.singleton_append, ← List.append_assoc front] at stands closes
      exact idle part inner rest parts stands later closes

theorem Sectioned.extend (sectioned : Sectioned text (front ++ [c]) found)
    (absent : ¬∃ part enclosed, Encloses text front part enclosed) : Sectioned text front found := by
  cases sectioned with
  | done parts idle => exact .done (by simpa using parts) (idle.extend absent)
  | next idle encloses more =>
      rename_i gap part enclosed found
      have encloses : Encloses text (front ++ c :: gap) part enclosed := by simpa using encloses
      exact .next (idle.extend absent) encloses (by simpa using more)

theorem Idle.nil (text front : List Char) : Idle text front [] := by
  intro part inner rest parts
  simp [part.opening_lettered.filled] at parts

theorem exists_sectioned (parts : text = front ++ rest) : ∃ found, Sectioned text front found := by
  induction length : rest.length using Nat.strong_induction_on generalizing front rest with
  | _ size ih =>
    by_cases begins : ∃ part enclosed, Encloses text front part enclosed
    · obtain ⟨part, enclosed, encloses⟩ := begins
      obtain ⟨back, opens, _⟩ := encloses.parts
      have shorter : back.length < size := by
        have sizes := congrArg List.length (parts.symm.trans opens.parts)
        have letters := List.length_pos_iff.mpr part.opening_lettered.filled
        simp only [List.length_append] at sizes
        omega
      have whole : text = front ++ part.opening ++ enclosed ++ part.closing ++ back := by simpa using opens.parts
      rw [← List.append_nil front] at encloses whole
      obtain ⟨found, more⟩ := ih back.length shorter whole rfl
      exact ⟨_, .next (.nil text front) encloses more⟩
    · cases rest with
      | nil => exact ⟨[], .done parts (.nil text front)⟩
      | cons c rest =>
          rw [List.length_cons] at length
          rw [← List.singleton_append, ← List.append_assoc] at parts
          obtain ⟨found, more⟩ := ih rest.length (by omega) parts rfl
          exact ⟨found, more.extend begins⟩

variable {found : List (Section × List Char)}

theorem body_first (first : FirstBody part enclosed found) :
    body (found.map fun (part, enclosed) => (part, trim enclosed)) part = .ok (trim enclosed) := by
  obtain ⟨earlier, later, rfl, others⟩ := first
  have passed : (earlier.map fun (part, enclosed) => (part, trim enclosed)).find?
      (fun (kind, _) => kind == part) = none := by
    simpa [List.find?_eq_none] using fun kind enclosed member => others (kind, enclosed) member
  rw [body, List.map_append, List.find?_append, passed]
  simp

theorem body_absent (absent : ∀ piece ∈ found, piece.1 ≠ part) :
    body (found.map fun (part, enclosed) => (part, trim enclosed)) part = .error (.missingSection part) := by
  have missed : (found.map fun (part, enclosed) => (part, trim enclosed)).find?
      (fun (kind, _) => kind == part) = none := by
    simpa [List.find?_eq_none] using fun kind enclosed member => absent (kind, enclosed) member
  rw [body, missed]

theorem exists_firstBody (present : (part, enclosed) ∈ found) : ∃ first, FirstBody part first found := by
  induction found with
  | nil => cases present
  | cons piece found ih =>
      by_cases here : piece.1 = part
      · exact ⟨piece.2, [], found, by rw [← here]; rfl, by simp⟩
      · have behind : (part, enclosed) ∈ found := by
          rcases List.mem_cons.mp present with rfl | behind
          · exact absurd rfl here
          · exact behind
        obtain ⟨first, earlier, later, rfl, others⟩ := ih behind
        exact ⟨first, piece :: earlier, later, rfl, by simpa [here] using others⟩

theorem section_position (order : Section.all = earlier ++ part :: later) :
    (earlier = [] ∧ part = .statements) ∨ (earlier = [.statements] ∧ part = .results) ∨
      (earlier = [.statements, .results] ∧ part = .rules) := by
  cases earlier with
  | nil => simp_all [Section.all]
  | cons first earlier =>
      cases earlier with
      | nil => simp_all [Section.all]
      | cons second earlier => cases earlier <;> simp_all [Section.all]

-- Every text consists of gaps and sections, and of each kind the first section gives its trimmed
-- body. The first kind that has no section is missing.
theorem sections_exact (text : List Char) :
    (∃ found, Sectioned text [] found) ∧ ∀ found, Sectioned text [] found →
      (∀ statements results rules, FirstBody .statements statements found → FirstBody .results results found →
        FirstBody .rules rules found → sections text = .ok ⟨trim statements, trim results, trim rules⟩) ∧
      (∀ earlier part later, Section.all = earlier ++ part :: later →
        (∀ other ∈ earlier, ∃ enclosed, (other, enclosed) ∈ found) → (∀ piece ∈ found, piece.1 ≠ part) →
        ∃ fault, sections text = .error fault ∧ fault.kind = .missingSection ∧
          fault.location = ⟨none, none, some part.opening⟩) := by
  refine ⟨exists_sectioned (List.nil_append text).symm, ?_⟩
  intro found sectioned
  have same : bodies false text = found.map fun (part, enclosed) => (part, trim enclosed) :=
    bodies_sectioned sectioned (List.nil_append text).symm
  constructor
  · intro statements results rules first second third
    simp only [sections, same, body_first first, body_first second, body_first third]
    rfl
  · intro earlier part later order present absent
    refine ⟨.missingSection part, ?_, rfl, rfl⟩
    have missed := body_absent absent
    rcases section_position order with ⟨rfl, rfl⟩ | ⟨rfl, rfl⟩ | ⟨rfl, rfl⟩
    · simp only [sections, same, missed]
      rfl
    · obtain ⟨statements, member⟩ := present .statements (by simp)
      obtain ⟨_, first⟩ := exists_firstBody member
      simp only [sections, same, body_first first, missed]
      rfl
    · obtain ⟨statements, member⟩ := present .statements (by simp)
      obtain ⟨results, another⟩ := present .results (by simp)
      obtain ⟨_, first⟩ := exists_firstBody member
      obtain ⟨_, second⟩ := exists_firstBody another
      simp only [sections, same, body_first first, body_first second, missed]
      rfl

def tangledText : List Char :=
  "results? stmt endresults endstmt rules a endrules stmt b endstmt results c endresults stmt".toList

theorem sections_exact_tangled : ∃ found, Sectioned tangledText [] found ∧
    found.map Prod.fst = [.results, .rules, .statements, .results] ∧
    sections tangledText = .ok ⟨"b".toList, "? stmt".toList, "a".toList⟩ := by
  obtain ⟨⟨found, sectioned⟩, outcome⟩ := sections_exact tangledText
  have search : bodies false tangledText = [(.results, "? stmt".toList), (.rules, "a".toList),
      (.statements, "b".toList), (.results, "c".toList)] := by decide +kernel
  have same : found.map (fun (part, enclosed) => (part, trim enclosed)) = bodies false tangledText :=
    (bodies_sectioned sectioned rfl).symm
  rw [search] at same
  obtain ⟨results, rules, statements, more, rfl⟩ : ∃ results rules statements more,
      found = [(.results, results), (.rules, rules), (.statements, statements), (.results, more)] := by
    simp only [List.map_eq_cons_iff, List.map_eq_nil_iff, Prod.exists, Prod.mk.injEq] at same
    obtain ⟨_, results, _, rfl, ⟨rfl, _⟩, _, rules, _, rfl, ⟨rfl, _⟩, _, statements, _, rfl, ⟨rfl, _⟩,
      _, more, _, rfl, ⟨rfl, _⟩, rfl⟩ := same
    exact ⟨results, rules, statements, more, rfl⟩
  simp only [List.map_cons, List.map_nil, List.cons.injEq, Prod.mk.injEq, true_and, and_true] at same
  obtain ⟨first, second, third, _⟩ := same
  have accepted := (outcome _ sectioned).1 statements results rules
    ⟨[(.results, results), (.rules, rules)], [(.results, more)], rfl, by simp⟩
    ⟨[], [(.rules, rules), (.statements, statements), (.results, more)], rfl, by simp⟩
    ⟨[(.results, results)], [(.statements, statements), (.results, more)], rfl, by simp⟩
  rw [first, second, third] at accepted
  exact ⟨_, sectioned, rfl, accepted⟩

end Triage.Source
