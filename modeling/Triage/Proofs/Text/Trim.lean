import Mathlib.Data.List.TakeWhile
import Triage.Text.Basic

namespace Triage.Text

theorem allBlank_append (left right : List Char) :
    allBlank (left ++ right) = (allBlank left && allBlank right) := by
  simp [allBlank]

theorem trimLeft_blank (blank : allBlank text = true) : trimLeft text = [] := by
  simpa [trimLeft, allBlank, List.dropWhile_eq_nil_iff] using blank

theorem trimLeft_append_blank (blank : allBlank lead = true) : trimLeft (lead ++ text) = trimLeft text := by
  have nothing := trimLeft_blank blank
  simp only [trimLeft] at nothing ⊢
  simp [List.dropWhile_append, nothing]

theorem trimLeft_append_solid (solid : isBlank c = false) (lead text : List Char) :
    trimLeft (lead ++ c :: text) = trimLeft lead ++ c :: text := by
  induction lead with
  | nil => simp [trimLeft, solid]
  | cons first lead ih =>
      cases blank : isBlank first with
      | true => simpa [trimLeft, blank] using ih
      | false => simp [trimLeft, blank]

theorem trimRight_reverse (text : List Char) : trimRight text = (trimLeft text.reverse).reverse := rfl

theorem trimRight_append_blank (blank : allBlank trail = true) : trimRight (text ++ trail) = trimRight text := by
  have blank : allBlank trail.reverse = true := by simpa [allBlank] using blank
  simp only [trimRight_reverse, List.reverse_append, trimLeft_append_blank blank]

theorem trimRight_append_solid (solid : isBlank c = false) (text trail : List Char) :
    trimRight (text ++ c :: trail) = text ++ c :: trimRight trail := by
  simp [trimRight_reverse, trimLeft_append_solid solid]

theorem mem_trimLeft (member : c ∈ trimLeft text) : c ∈ text := (List.dropWhile_sublist _).mem member

theorem mem_trimRight (member : c ∈ trimRight text) : c ∈ text := by
  simpa using mem_trimLeft (List.mem_reverse.mp member)

theorem mem_trim (member : c ∈ trim text) : c ∈ text := mem_trimLeft (mem_trimRight member)

theorem not_mem_blank (blank : allBlank text = true) (solid : isBlank c = false) : c ∉ text := by
  intro member
  rw [List.all_eq_true.mp blank c member] at solid
  cases solid

theorem trimLeft_parts (text : List Char) :
    ∃ lead, allBlank lead = true ∧ text = lead ++ trimLeft text :=
  ⟨text.takeWhile isBlank, List.all_takeWhile, List.takeWhile_append_dropWhile.symm⟩

theorem trimRight_parts (text : List Char) :
    ∃ trail, allBlank trail = true ∧ text = trimRight text ++ trail := by
  obtain ⟨lead, blank, parts⟩ := trimLeft_parts text.reverse
  refine ⟨lead.reverse, by simpa [allBlank] using blank, ?_⟩
  rw [trimRight_reverse, ← List.reverse_append, ← parts, List.reverse_reverse]

theorem trim_parts (text : List Char) :
    ∃ lead trail, allBlank lead = true ∧ allBlank trail = true ∧ text = lead ++ trim text ++ trail := by
  obtain ⟨lead, leading, front⟩ := trimLeft_parts text
  obtain ⟨trail, trailing, back⟩ := trimRight_parts (trimLeft text)
  refine ⟨lead, trail, leading, trailing, ?_⟩
  rw [List.append_assoc, trim, ← back, ← front]

theorem trim_blank (blank : allBlank text = true) : trim text = [] := by
  rw [trim, trimLeft_blank blank]
  rfl

theorem trim_eq_nil : trim text = [] ↔ allBlank text = true := by
  constructor
  · intro empty
    obtain ⟨lead, trail, leading, trailing, parts⟩ := trim_parts text
    rw [parts, empty]
    simp [allBlank_append, leading, trailing]
  · exact trim_blank

theorem trim_isEmpty (text : List Char) : (trim text).isEmpty = allBlank text := by
  cases blank : allBlank text with
  | true => simp [trim_blank blank]
  | false =>
      have some : trim text ≠ [] := fun empty => by simp [trim_eq_nil.mp empty] at blank
      simpa using some

-- A character that is not blank divides what is trimmed on either side.
theorem trim_append_solid (solid : isBlank c = false) (lead trail : List Char) :
    trim (lead ++ c :: trail) = trimLeft lead ++ c :: trimRight trail := by
  rw [trim, trimLeft_append_solid solid, trimRight_append_solid solid]

theorem exists_solid (solid : allBlank text = false) :
    ∃ lead c trail, text = lead ++ c :: trail ∧ isBlank c = false := by
  obtain ⟨c, member, here⟩ : ∃ c ∈ text, isBlank c = false := by simpa [allBlank] using solid
  obtain ⟨lead, trail, parts⟩ := List.append_of_mem member
  exact ⟨lead, c, trail, parts, here⟩

theorem trim_append_right (blank : allBlank trail = true) : trim (text ++ trail) = trim text := by
  cases solid : allBlank text with
  | true => rw [trim_blank solid, trim_blank (by simp [allBlank_append, solid, blank])]
  | false =>
      obtain ⟨front, c, back, rfl, here⟩ := exists_solid solid
      rw [List.append_assoc, List.cons_append, trim_append_solid here, trim_append_solid here,
        trimRight_append_blank blank]

theorem trim_append_left (blank : allBlank lead = true) : trim (lead ++ text) = trim text := by
  rw [trim, trimLeft_append_blank blank, trim]

@[simp] theorem trim_trim (text : List Char) : trim (trim text) = trim text := by
  obtain ⟨lead, trail, leading, trailing, parts⟩ := trim_parts text
  have outside := congrArg trim parts
  rw [trim_append_right trailing, trim_append_left leading] at outside
  exact outside.symm

theorem trim_trimLeft (text : List Char) : trim (trimLeft text) = trim text := by
  obtain ⟨lead, blank, parts⟩ := trimLeft_parts text
  have outside := congrArg trim parts
  rw [trim_append_left blank] at outside
  exact outside.symm

theorem trim_trimRight (text : List Char) : trim (trimRight text) = trim text := by
  obtain ⟨trail, blank, parts⟩ := trimRight_parts text
  have outside := congrArg trim parts
  rw [trim_append_right blank] at outside
  exact outside.symm

theorem trimmed_first (trimmed : trim (c :: text) = c :: text) : isBlank c = false := by
  cases blank : isBlank c with
  | false => rfl
  | true =>
      have shorter := trim_length text
      have same : trim text = c :: text := by
        rw [← trimmed]
        exact (trim_append_left (show allBlank [c] = true by simp [allBlank, blank])).symm
      rw [same, List.length_cons] at shorter
      omega

theorem trimmed_last (trimmed : trim (text ++ [c]) = text ++ [c]) : isBlank c = false := by
  cases blank : isBlank c with
  | false => rfl
  | true =>
      have shorter := trim_length text
      rw [trim_append_right (by simp [allBlank, blank])] at trimmed
      rw [trimmed, List.length_append, List.length_singleton] at shorter
      omega

theorem trim_enclosed (opens : isBlank first = false) (closes : isBlank last = false) (text : List Char) :
    trim (first :: text ++ [last]) = first :: text ++ [last] := by
  have front := trimLeft_append_solid opens [] (text ++ [last])
  have back := trimRight_append_solid closes (first :: text) []
  simp only [List.nil_append, List.cons_append] at front back ⊢
  rw [trim, front]
  exact back

end Triage.Text
