import Mathlib.Data.List.Basic
import Triage.Proofs.Text.Trim
import Triage.Text.Basic

namespace Triage.Text

section Pieces

variable {α : Type} [DecidableEq α] {separator c : α} {text front back piece last first : List α}
  {pieces earlier later : List (List α)}

theorem splitAt_plain (plain : separator ∉ text) : splitAt separator text = [text] := by
  induction text with
  | nil => rfl
  | cons c text ih =>
      simp only [List.mem_cons, not_or] at plain
      simp [splitAt, Ne.symm plain.1, ih plain.2]

theorem splitAt_cons (rest : splitAt separator text = piece :: pieces) (other : c ≠ separator) :
    splitAt separator (c :: text) = (c :: piece) :: pieces := by
  simp [splitAt, other, rest]

theorem splitAt_length (separator : α) (text : List α) :
    (splitAt separator text).length = text.count separator + 1 := by
  induction text with
  | nil => rfl
  | cons c text ih =>
      by_cases here : c = separator
      · subst here
        rw [splitAt, if_pos rfl, List.length_cons, ih, List.count_cons_self]
      · obtain ⟨piece, pieces, rest⟩ := List.exists_cons_of_ne_nil (splitAt_ne_nil separator text)
        rw [splitAt_cons rest here, List.count_cons_of_ne here, ← ih, rest, List.length_cons, List.length_cons]

theorem splitAt_last (separator : α) (text : List α) :
    ∃ earlier last, splitAt separator text = earlier ++ [last] :=
  (List.eq_nil_or_concat' _).resolve_left (splitAt_ne_nil separator text)

theorem splitAt_append (left : splitAt separator front = earlier ++ [last])
    (right : splitAt separator back = first :: later) :
    splitAt separator (front ++ back) = earlier ++ (last ++ first) :: later := by
  induction front generalizing earlier last with
  | nil =>
      have alone : earlier ++ [last] = [[]] := left.symm
      obtain ⟨rfl, rfl⟩ : earlier = [] ∧ last = [] := by
        cases earlier <;> simp_all
      exact right
  | cons c front ih =>
      by_cases here : c = separator
      · -- The separator closes an empty piece, which comes before all that follows.
        simp only [splitAt, here, if_true] at left
        simp only [List.cons_append, splitAt, here, if_true]
        cases earlier with
        | nil => simp [splitAt_ne_nil] at left
        | cons piece earlier =>
            rw [List.cons_append] at left
            obtain ⟨rfl, rest⟩ := List.cons.inj left
            rw [ih rest, List.cons_append]
      · obtain ⟨piece, pieces, rest⟩ := List.exists_cons_of_ne_nil (splitAt_ne_nil separator front)
        rw [splitAt_cons rest here] at left
        cases earlier with
        | nil =>
            obtain ⟨rfl, rfl⟩ : c :: piece = last ∧ pieces = [] := by simpa using left
            have joined := ih (show splitAt separator front = [] ++ [piece] by rw [rest, List.nil_append])
            exact splitAt_cons joined here
        | cons next earlier =>
            obtain ⟨rfl, rfl⟩ : c :: piece = next ∧ pieces = earlier ++ [last] := by simpa using left
            have joined := ih (show splitAt separator front = (piece :: earlier) ++ [last] by rw [rest, List.cons_append])
            exact splitAt_cons joined here

theorem splitAt_break (separator : α) (front back : List α) :
    splitAt separator (front ++ separator :: back) = splitAt separator front ++ splitAt separator back := by
  obtain ⟨earlier, last, left⟩ := splitAt_last separator front
  have right : splitAt separator (separator :: back) = [] :: splitAt separator back := by simp [splitAt]
  rw [splitAt_append left right, left, List.append_nil, List.append_assoc, List.singleton_append]

theorem mem_splitAt (member : piece ∈ splitAt separator text) : ∀ c ∈ piece, c ∈ text ∧ c ≠ separator := by
  induction text generalizing piece with
  | nil =>
      have empty : piece = [] := List.mem_singleton.mp member
      simp [empty]
  | cons c text ih =>
      have later (within : piece ∈ splitAt separator text) : ∀ d ∈ piece, d ∈ c :: text ∧ d ≠ separator :=
        fun d inside => (ih within d inside).imp_left (List.mem_cons_of_mem c)
      by_cases here : c = separator
      · rw [splitAt, if_pos here] at member
        rcases List.mem_cons.mp member with rfl | within
        · simp
        · exact later within
      · obtain ⟨first, pieces, rest⟩ := List.exists_cons_of_ne_nil (splitAt_ne_nil separator text)
        rw [splitAt_cons rest here] at member
        rcases List.mem_cons.mp member with rfl | within
        · have inside := @ih first (by simp [rest])
          refine List.forall_mem_cons.mpr ⟨⟨by simp, here⟩, fun d within => ?_⟩
          exact (inside d within).imp_left (List.mem_cons_of_mem c)
        · exact later (by simp [rest, within])

end Pieces

theorem contentLines_oneLine (member : line ∈ contentLines block) : '\n' ∉ line :=
  fun inside => (mem_splitAt (List.mem_filter.mp member).1 _ inside).2 rfl

theorem splitAt_blank (blank : allBlank text = true) : ∀ piece ∈ splitAt separator text, allBlank piece = true := by
  induction text with
  | nil => simp [splitAt, allBlank]
  | cons c text ih =>
      have parts : isBlank c = true ∧ allBlank text = true := by simpa [allBlank] using blank
      have later := ih parts.2
      by_cases here : c = separator
      · simpa [splitAt, here, allBlank] using later
      · obtain ⟨piece, pieces, rest⟩ := List.exists_cons_of_ne_nil (splitAt_ne_nil separator text)
        rw [rest] at later
        rw [splitAt_cons rest here]
        simpa [allBlank, parts.1] using later

theorem contentLines_break (front back : List Char) :
    contentLines (front ++ '\n' :: back) = contentLines front ++ contentLines back := by
  rw [contentLines, lines, splitAt_break, List.filter_append]
  rfl

theorem contentLines_line (plain : '\n' ∉ line) (solid : allBlank line = false) : contentLines line = [line] := by
  simp [contentLines, lines, splitAt_plain plain, solid]

theorem contentLines_lines (block : List (List Char)) (plain : ∀ line ∈ block, '\n' ∉ line)
    (solid : ∀ line ∈ block, allBlank line = false) :
    contentLines (block.flatMap fun line => line ++ ['\n']) = block := by
  induction block with
  | nil => rfl
  | cons line block ih =>
      have here := contentLines_line (plain line (by simp)) (solid line (by simp))
      have later := ih (fun next member => plain next (by simp [member]))
        (fun next member => solid next (by simp [member]))
      rw [List.flatMap_cons, List.append_assoc, List.singleton_append, contentLines_break, here, later,
        List.singleton_append]

-- Blanks on either side of a block add blank lines and lengthen the first or the last line.
theorem contentLines_append_left (blank : allBlank lead = true) :
    (contentLines (lead ++ block)).map trim = (contentLines block).map trim := by
  have pieces := @splitAt_blank lead '\n' blank
  obtain ⟨first, later, right⟩ := List.exists_cons_of_ne_nil (splitAt_ne_nil '\n' block)
  obtain ⟨earlier, last, left⟩ := splitAt_last '\n' lead
  simp only [left, List.mem_append, List.mem_singleton] at pieces
  have nothing : earlier.filter (fun line => !allBlank line) = [] := by
    simpa [List.filter_eq_nil_iff] using fun piece member => pieces piece (Or.inl member)
  have same : allBlank (last ++ first) = allBlank first := by
    rw [allBlank_append, pieces last (Or.inr rfl), Bool.true_and]
  have ends : trim (last ++ first) = trim first := trim_append_left (pieces last (Or.inr rfl))
  rw [contentLines, lines, splitAt_append left right, contentLines, lines, right]
  simp only [List.filter_append, nothing, List.nil_append, List.filter_cons, same]
  split <;> simp [ends]

theorem contentLines_append_right (blank : allBlank trail = true) :
    (contentLines (block ++ trail)).map trim = (contentLines block).map trim := by
  have pieces := @splitAt_blank trail '\n' blank
  obtain ⟨first, later, right⟩ := List.exists_cons_of_ne_nil (splitAt_ne_nil '\n' trail)
  obtain ⟨earlier, last, left⟩ := splitAt_last '\n' block
  simp only [right, List.mem_cons] at pieces
  have nothing : later.filter (fun line => !allBlank line) = [] := by
    simpa [List.filter_eq_nil_iff] using fun piece member => pieces piece (Or.inr member)
  have same : allBlank (last ++ first) = allBlank last := by
    rw [allBlank_append, pieces first (Or.inl rfl), Bool.and_true]
  have ends : trim (last ++ first) = trim last := trim_append_right (pieces first (Or.inl rfl))
  rw [contentLines, lines, splitAt_append left right, contentLines, lines, left]
  simp only [List.filter_append, List.filter_cons, List.filter_nil, nothing, same]
  split <;> simp [ends]

theorem contentLines_trim (block : List Char) :
    (contentLines (trim block)).map trim = (contentLines block).map trim := by
  obtain ⟨lead, trail, leading, trailing, parts⟩ := trim_parts block
  have outside := congrArg (fun text => (contentLines text).map trim) parts
  simp only [contentLines_append_right trailing, contentLines_append_left leading] at outside
  exact outside.symm

end Triage.Text
