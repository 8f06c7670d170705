import Triage.Proofs.Expr.RoundTrip
import Triage.Proofs.Source.Lines

namespace Triage.Source
open Triage.Text

theorem thenResult?_word (letters : result.all isWord = true) (blank : allBlank trail = true) :
    thenResult? (result ++ trail) = none := by
  unfold thenResult?
  split
  · rename_i rest found
    have inResult : ∃ tail, result = "THEN".toList ++ tail ∧ rest = tail ++ trail := by
      rcases List.append_eq_append_iff.mp (afterStart?_eq_some.mp found) with ⟨tail, word, parts⟩ | inside
      · -- What is left of the THEN would stand among the blanks.
        cases tail with
        | nil => exact ⟨[], by simpa using word.symm, by simpa using parts.symm⟩
        | cons c tail =>
            have solid : isBlank c = true := List.all_eq_true.mp blank c (by simp [parts])
            have letters : Lettered "THEN".toList := by decide
            rw [letters.solid (by simp [word])] at solid
            cases solid
      · exact inside
    obtain ⟨tail, rfl, rfl⟩ := inResult
    cases tail with
    | nil => simp [trimLeft_blank blank]
    | cons c tail =>
        have letter : isWord c = true := List.all_eq_true.mp letters c (by simp)
        simp [thenResult?.opensBlank, isBlank_word letter]
  · rfl

theorem thenResult?_found (lettered : Lettered result) (blank : allBlank trail = true) :
    thenResult? ("THEN".toList ++ ' ' :: (result ++ trail)) = some result := by
  have mark : afterStart? "THEN".toList ("THEN".toList ++ ' ' :: (result ++ trail)) = some (' ' :: (result ++ trail)) :=
    afterStart?_eq_some.mpr rfl
  obtain ⟨first, others, rfl⟩ := List.exists_cons_of_ne_nil lettered.filled
  have solid : isBlank first = false := lettered.solid (by simp)
  have rest : trimLeft (' ' :: (first :: others ++ trail)) = first :: others ++ trail :=
    trimLeft_append_solid solid [' '] (others ++ trail)
  have stops : trail.takeWhile isWord = [] := by
    cases trail with
    | nil => rfl
    | cons c trail => simp [show isWord c = false from opensWord_blank blank]
  have taken : (first :: others ++ trail).takeWhile isWord = first :: others := by
    rw [List.takeWhile_append_of_pos (List.all_eq_true.mp lettered.letters), stops, List.append_nil]
  simp only [thenResult?, mark, rest, taken]
  rfl

theorem lastThen?_blank (blank : allBlank text = true) : lastThen? text = none := by
  induction text with
  | nil => rfl
  | cons c text ih =>
      have parts : isBlank c = true ∧ allBlank text = true := by simpa [allBlank] using blank
      have nothing : thenResult? ([] ++ text) = none := thenResult?_word rfl parts.2
      rw [List.nil_append] at nothing
      have empty : thenResult? [] = none := rfl
      simp [lastThen?, ih parts.2, trimLeft_blank parts.2, nothing, empty]

theorem lastThen?_word (letters : word.all isWord = true) (missed : lastThen? text = none) :
    lastThen? (word ++ text) = none := by
  induction word with
  | nil => exact missed
  | cons c word ih =>
      have parts : isWord c = true ∧ word.all isWord = true := by simpa using letters
      have solid := isBlank_word parts.1
      have plain : c ≠ '\n' := by
        rintro rfl
        cases solid
      simp [lastThen?, plain, solid, ih parts.2]

-- A later THEN is preferred to all that comes before it on the line.
theorem lastThen?_later (plain : '\n' ∉ front) (found : lastThen? text = some (condition, result)) :
    lastThen? (front ++ text) = some (front ++ condition, result) := by
  induction front with
  | nil => exact found
  | cons c front ih =>
      simp only [List.mem_cons, not_or] at plain
      simp [lastThen?, Ne.symm plain.1, ih plain.2]

theorem lastThen?_mark (lettered : Lettered result) (blank : allBlank trail = true) :
    lastThen? (" THEN ".toList ++ (result ++ trail)) = some ([], result) := by
  have nothing : lastThen? (' ' :: (result ++ trail)) = none := by
    have word := lastThen?_word lettered.letters (lastThen?_blank blank)
    simp [lastThen?, word, thenResult?_word lettered.letters blank]
  have missed : lastThen? ("THEN".toList ++ ' ' :: (result ++ trail)) = none := lastThen?_word (by decide) nothing
  have here := thenResult?_found lettered blank
  show lastThen? (' ' :: ("THEN".toList ++ ' ' :: (result ++ trail))) = some ([], result)
  simp only [lastThen?, missed, here]
  rfl

theorem afterIf?_found (blank : isBlank c = true) (found : lastThen? (trimLeft text) = some cut) :
    afterIf? (c :: text) = some cut := by
  have rest : trimLeft (c :: text) = trimLeft text :=
    trimLeft_append_blank (show allBlank [c] = true by simp [allBlank, blank])
  simp [afterIf?, blank, rest, found]

theorem ifThen?_lead (blank : allBlank lead = true) : ifThen? (lead ++ text) = ifThen? text := by
  induction lead with
  | nil => rfl
  | cons c lead ih =>
      have parts : isBlank c = true ∧ allBlank lead = true := by simpa [allBlank] using blank
      have other : 'I' ≠ c := by
        rintro rfl
        cases parts.1
      rw [List.cons_append, ifThen?]
      simp [afterStart?, other, ih parts.2]

theorem ifThen?_found (found : (afterStart? "IF".toList text).bind afterIf? = some cut) : ifThen? text = some cut := by
  cases text with
  | nil => cases found
  | cons c text => simp only [ifThen?, found]

-- The condition of a rule is what was written between its marks.
theorem ifThen?_rule (filled : condition ≠ []) (trimmed : trim condition = condition) (plain : '\n' ∉ condition)
    (lettered : Lettered result) (blank : allBlank trail = true) :
    ifThen? ("IF ".toList ++ condition ++ " THEN ".toList ++ result ++ trail) = some (condition, result) := by
  have found := lastThen?_later plain (lastThen?_mark lettered blank)
  rw [List.append_nil] at found
  obtain ⟨first, others, rfl⟩ := List.exists_cons_of_ne_nil filled
  have solid := trimmed_first trimmed
  have rest : trimLeft (first :: others ++ (" THEN ".toList ++ (result ++ trail))) =
      first :: others ++ (" THEN ".toList ++ (result ++ trail)) :=
    trimLeft_append_solid solid [] _
  have cut := afterIf?_found (show isBlank ' ' = true by rfl) ((congrArg lastThen? rest).trans found)
  have parts : "IF ".toList ++ (first :: others) ++ " THEN ".toList ++ result ++ trail =
      "IF".toList ++ ' ' :: (first :: others ++ (" THEN ".toList ++ (result ++ trail))) := by
    simp
  apply ifThen?_found
  rw [afterStart?_eq_some.mpr parts]
  exact cut

def ruleLine (condition result : List Char) : List Char :=
  "IF ".toList ++ condition ++ " THEN ".toList ++ result

theorem ruleLine_trimmed (lettered : Lettered result) :
    trim (ruleLine condition result) = ruleLine condition result := by
  obtain ⟨front, last, rfl⟩ := (List.eq_nil_or_concat' result).resolve_left lettered.filled
  have closes : isBlank last = false := lettered.solid (by simp)
  have parts : ruleLine condition (front ++ [last]) =
      'I' :: ('F' :: ' ' :: (condition ++ (" THEN ".toList ++ front))) ++ [last] := by
    simp [ruleLine]
  rw [parts]
  exact trim_enclosed (by rfl) closes _

theorem ruleLine_inline (inline : Inline .rules condition) (lettered : Lettered result)
    (apart : result ≠ Section.rules.closing) : Inline .rules (ruleLine condition result) := by
  have mark : Inline .rules ("THEN".toList ++ ' ' :: result) :=
    (Inline.word (by decide) (by decide)).join (by rfl) (by decide) (.word lettered apart)
  have rest : Inline .rules (condition ++ ' ' :: ("THEN".toList ++ ' ' :: result)) :=
    inline.join (by rfl) (by decide) mark
  have whole : Inline .rules ("IF".toList ++ ' ' :: (condition ++ ' ' :: ("THEN".toList ++ ' ' :: result))) :=
    (Inline.word (by decide) (by decide)).join (by rfl) (by decide) rest
  simpa [ruleLine] using whole

theorem denotes_rule (operand : Expr.Operand condition) (inline : Inline .rules condition)
    (reread : Expr.read condition = .ok e) (lettered : Lettered result) (apart : result ≠ Section.rules.closing) :
    Denotes .rules (fun text number => readRule number text) (ruleLine condition result)
      ⟨e, Datum.ofChars result⟩ := by
  refine ⟨ruleLine_inline inline lettered apart, ?_, ?_⟩
  · simp [ruleLine, allBlank, show isBlank 'I' = false by rfl]
  · intro text number same
    obtain ⟨lead, trail, leading, trailing, parts⟩ := trim_parts text
    rw [same, ruleLine_trimmed lettered] at parts
    have cut := ifThen?_rule operand.filled operand.trimmed inline.oneLine lettered trailing
    have found : ifThen? text = some (condition, result) := by
      rw [parts, List.append_assoc, ifThen?_lead leading]
      exact cut
    simp only [readRule, found, reread]

end Triage.Source
