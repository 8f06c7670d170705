import Triage.Proofs.Text.Lines
import Triage.Proofs.Text.Whole

namespace Triage.Text

inductive Respaced : List Char → List Char → Prop where
  | nil : Respaced [] []
  | char (plain : c ≠ '\n') (more : Respaced text other) : Respaced (c :: text) (c :: other)
  | line (blank : allBlank gap = true) (breaks : '\n' ∈ gap) (more : Respaced text other) :
      Respaced ('\n' :: text) (gap ++ other)

namespace Respaced

theorem plain (oneLine : '\n' ∉ text) : Respaced text text := by
  induction text with
  | nil => exact .nil
  | cons c text ih =>
      simp only [List.mem_cons, not_or] at oneLine
      exact .char (Ne.symm oneLine.1) (ih oneLine.2)

theorem append (first : Respaced front other) (second : Respaced back another) :
    Respaced (front ++ back) (other ++ another) := by
  induction first with
  | nil => exact second
  | char plain _ ih => exact .char plain ih
  | line blank breaks _ ih =>
      rw [List.cons_append, List.append_assoc]
      exact .line blank breaks ih

theorem opensWord_eq (spaced : Respaced text other) : opensWord text = opensWord other := by
  cases spaced with
  | nil => rfl
  | char => rfl
  | @line gap text other blank breaks _ =>
      rw [opensWord_append (List.ne_nil_of_mem breaks), opensWord_blank blank]
      exact isWord_newline

theorem afterStart?_rel (spaced : Respaced text other) (letters : word.all isWord = true) :
    Option.Rel Respaced (afterStart? word text) (afterStart? word other) := by
  induction word generalizing text other with
  | nil => exact .some spaced
  | cons letter word ih =>
      have parts : isWord letter = true ∧ word.all isWord = true := by simpa using letters
      have apart {c : Char} (blank : isBlank c = true) : letter ≠ c := by
        rintro rfl
        rw [isWord_blank blank] at parts
        cases parts.1
      cases spaced with
      | nil => exact .none
      | @char c text other _ more =>
          by_cases same : letter = c
          · simpa [afterStart?, same] using ih more parts.2
          · simp [afterStart?, same]
      | @line gap text other blank breaks _ =>
          obtain ⟨first, gap, rfl⟩ := List.exists_cons_of_ne_nil (List.ne_nil_of_mem breaks)
          have opens : isBlank first = true := List.all_eq_true.mp blank first (by simp)
          simp [afterStart?, apart opens, apart (show isBlank '\n' = true by rfl)]

theorem wholeWord?_rel (spaced : Respaced text other) (lettered : Lettered word) (inside : Bool) :
    Option.Rel Respaced (wholeWord? word inside text) (wholeWord? word inside other) := by
  unfold wholeWord?
  cases inside with
  | true => exact .none
  | false =>
      have found := spaced.afterStart?_rel lettered.letters
      generalize afterStart? word text = first at found ⊢
      generalize afterStart? word other = second at found ⊢
      cases found with
      | none => exact .none
      | some more =>
          simp only [Bool.false_eq_true, if_false, more.opensWord_eq]
          split
          · exact .none
          · exact .some more

end Respaced

theorem cutWord?_lead (blank : allBlank lead = true) (lettered : Lettered word) (text : List Char) :
    cutWord? word false (lead ++ text) =
      (cutWord? word false text).map fun (before, rest) => (lead ++ before, rest) := by
  induction lead with
  | nil => simp
  | cons c lead ih =>
      have parts : isBlank c = true ∧ allBlank lead = true := by simpa [allBlank] using blank
      have apart : isWord c = false := isWord_blank parts.1
      rw [List.cons_append, cutWord?, wholeWord?_break (show opensWord (c :: (lead ++ text)) = false from apart) lettered,
        apart, ih parts.2, Option.map_map]
      rfl

theorem cutWord?_gap (blank : allBlank gap = true) (filled : gap ≠ []) (lettered : Lettered word) (inside : Bool)
    (text : List Char) :
    cutWord? word inside (gap ++ text) =
      (cutWord? word false text).map fun (before, rest) => (gap ++ before, rest) := by
  have opens : opensWord (gap ++ text) = false := by
    rw [opensWord_append filled, opensWord_blank blank]
  cases inside with
  | false => exact cutWord?_lead blank lettered text
  | true => rw [cutWord?_inside opens lettered, cutWord?_lead blank lettered]

namespace Respaced

theorem cutWord?_rel (spaced : Respaced text other) (lettered : Lettered word) (inside : Bool) :
    Option.Rel (fun cut another => Respaced cut.1 another.1 ∧ Respaced cut.2 another.2)
      (cutWord? word inside text) (cutWord? word inside other) := by
  induction spaced generalizing inside with
  | nil => exact .none
  | @char c text other plain more ih =>
      have here := (Respaced.char plain more).wholeWord?_rel lettered inside
      have later := ih (isWord c)
      rw [cutWord?, cutWord?]
      generalize wholeWord? word inside (c :: text) = first at here ⊢
      generalize wholeWord? word inside (c :: other) = second at here ⊢
      generalize cutWord? word (isWord c) text = third at later ⊢
      generalize cutWord? word (isWord c) other = fourth at later ⊢
      cases here with
      | some rest => exact .some ⟨.nil, rest⟩
      | none =>
          cases later with
          | none => exact .none
          | some parts => exact .some ⟨.char plain parts.1, parts.2⟩
  | @line gap text other blank breaks more ih =>
      have newline : cutWord? word inside (['\n'] ++ text) =
          (cutWord? word false text).map fun (before, rest) => (['\n'] ++ before, rest) :=
        cutWord?_gap (by rfl) (by simp) lettered inside text
      have gapped := cutWord?_gap blank (List.ne_nil_of_mem breaks) lettered inside other
      have later := ih false
      rw [List.singleton_append] at newline
      rw [newline, gapped]
      generalize cutWord? word false text = third at later ⊢
      generalize cutWord? word false other = fourth at later ⊢
      cases later with
      | none => exact .none
      | some parts => exact .some ⟨.line blank breaks parts.1, parts.2⟩

-- The lines are the same, up to the blanks around them; `front` is the line that has begun.
theorem contentLines_front (spaced : Respaced text other) (front : List Char) :
    (contentLines (front ++ text)).map trim = (contentLines (front ++ other)).map trim := by
  induction spaced generalizing front with
  | nil => rfl
  | @char c text other _ _ ih =>
      have begun := ih (front ++ [c])
      simpa only [List.append_assoc, List.singleton_append] using begun
  | @line gap text other blank breaks _ ih =>
      obtain ⟨lead, trail, rfl⟩ := List.append_of_mem breaks
      simp only [allBlank_append, Bool.and_eq_true] at blank
      have leading : allBlank lead = true := blank.1
      have trailing : isBlank '\n' = true ∧ allBlank trail = true := by simpa [allBlank] using blank.2
      have more := ih []
      rw [List.nil_append, List.nil_append] at more
      have parts : front ++ (lead ++ '\n' :: trail ++ other) = (front ++ lead) ++ '\n' :: (trail ++ other) := by
        simp only [List.append_assoc, List.cons_append]
      rw [parts, contentLines_break, contentLines_break, List.map_append, List.map_append,
        contentLines_append_right leading, contentLines_append_left trailing.2, more]

theorem contentLines_eq (spaced : Respaced text other) :
    (contentLines text).map trim = (contentLines other).map trim := spaced.contentLines_front []

end Respaced

end Triage.Text
