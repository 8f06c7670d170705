import Triage.Proofs.Text.Search

namespace Triage.Text

def Letterless (letter : Char → Bool) (text : List Char) : Prop := ∀ c ∈ text, letter c = false

instance (letter : Char → Bool) (text : List Char) : Decidable (Letterless letter text) :=
  decidable_of_iff (text.all (!letter ·) = true) (by simp [Letterless])

@[simp] theorem letterless_nil : Letterless letter [] := List.forall_mem_nil _

@[simp] theorem letterless_cons : Letterless letter (c :: text) ↔ letter c = false ∧ Letterless letter text :=
  List.forall_mem_cons

@[simp] theorem letterless_append :
    Letterless letter (front ++ back) ↔ Letterless letter front ∧ Letterless letter back :=
  List.forall_mem_append

-- The same runs of letters one after the other, with something between them in the same places.
inductive SameRuns (letter : Char → Bool) : List Char → List Char → Prop where
  | nil : SameRuns letter [] []
  | keep (c : Char) : SameRuns letter x y → SameRuns letter (c :: x) (c :: y)
  | gap : front ≠ [] → back ≠ [] → Letterless letter front → Letterless letter back →
      SameRuns letter x y → SameRuns letter (front ++ x) (back ++ y)

variable {letter : Char → Bool} {word front back x y : List Char}

theorem infix_break (foreign : c ∉ word) : word <:+: front ++ c :: back ↔ word <:+: front ∨ word <:+: back := by
  induction front with
  | nil =>
      rw [List.nil_append, List.infix_cons_iff, List.infix_nil]
      constructor
      · intro stands
        rcases stands with starts | later
        · exact .inl (List.prefix_nil.mp (prefix_break foreign [] starts))
        · exact .inr later
      · intro stands
        rcases stands with rfl | later
        · exact .inl (List.nil_prefix)
        · exact .inr later
  | cons first front ih =>
      have starts : word <+: first :: (front ++ c :: back) ↔ word <+: first :: front := by
        constructor
        · exact prefix_break foreign (first :: front)
        · intro inside
          exact inside.trans (List.prefix_append (first :: front) (c :: back))
      rw [List.cons_append, List.infix_cons_iff, List.infix_cons_iff, ih, starts, or_assoc]

-- Before a text that starts with a foreign character no word goes on.
theorem infix_fence (fence : back.head? = some c) (foreign : c ∉ word) :
    word <:+: front ++ back ↔ word <:+: front ∨ word <:+: back := by
  obtain ⟨more, rfl⟩ := List.head?_eq_some_iff.mp fence
  have behind : word <:+: [] ++ c :: more ↔ word <:+: [] ∨ word <:+: more := infix_break foreign
  rw [List.nil_append] at behind
  rw [infix_break foreign, behind]
  constructor
  · intro stands
    rcases stands with inside | later
    · exact .inl inside
    · exact .inr (.inr later)
  · intro stands
    rcases stands with inside | none | later
    · exact .inl inside
    · exact .inl (none.trans (List.nil_infix))
    · exact .inr later

theorem Passes.infix_append (passes : Passes word front) : word <:+: front ++ back ↔ word <:+: back := by
  induction front with
  | nil => exact Iff.rfl
  | cons c front ih => rw [List.cons_append, List.infix_cons_iff, ih passes.2.2, or_iff_right (passes.start back)]

theorem Passes.letterless (letters : ∀ c ∈ word, letter c = true) (filled : word ≠ [])
    (none : Letterless letter text) : Passes word text := by
  obtain ⟨first, more, rfl⟩ := List.exists_cons_of_ne_nil filled
  apply Passes.lacking
  intro member
  have letter := letters first (List.mem_cons_self)
  rw [none first member] at letter
  cases letter

namespace SameRuns

theorem prefix_iff (same : SameRuns letter x y) (letters : ∀ c ∈ word, letter c = true) : word <+: x ↔ word <+: y := by
  induction same generalizing word with
  | nil => exact Iff.rfl
  | keep c _ ih =>
      cases word with
      | nil => simp
      | cons first word =>
          rw [List.cons_prefix_cons, List.cons_prefix_cons, ih (List.forall_mem_cons.mp letters).2]
  | @gap front back x y someFront someBack noneFront noneBack _ _ =>
      by_cases filled : word = []
      · simp [filled]
      · have first : ∀ {gap rest : List Char}, gap ≠ [] → Letterless letter gap → ¬word <+: gap ++ rest := by
          intro gap rest some none
          obtain ⟨c, more, rfl⟩ := List.exists_cons_of_ne_nil some
          exact (Passes.letterless letters filled none).start rest
        exact iff_of_false (first someFront noneFront) (first someBack noneBack)

theorem infix_iff (same : SameRuns letter x y) (letters : ∀ c ∈ word, letter c = true) (filled : word ≠ []) :
    word <:+: x ↔ word <:+: y := by
  induction same with
  | nil => exact Iff.rfl
  | keep c same ih => rw [List.infix_cons_iff, List.infix_cons_iff, (same.keep c).prefix_iff letters, ih]
  | gap _ _ noneFront noneBack _ ih =>
      rw [(Passes.letterless letters filled noneFront).infix_append,
        (Passes.letterless letters filled noneBack).infix_append, ih]

theorem flatMap {write : Char → List Char} (kept : ∀ c, letter c = true → write c = [c])
    (gaps : ∀ c, letter c = false → write c ≠ [] ∧ Letterless letter (write c)) (text : List Char) :
    SameRuns letter (text.flatMap write) text := by
  induction text with
  | nil => exact .nil
  | cons c text ih =>
      rw [List.flatMap_cons]
      cases kind : letter c with
      | true =>
          rw [kept c kind]
          exact ih.keep c
      | false =>
          obtain ⟨some, none⟩ := gaps c kind
          have single : Letterless letter [c] := by simp [kind]
          exact ih.gap some (List.cons_ne_nil c []) none single

theorem replaceAll {pattern replacement : List Char} (filled : pattern ≠ []) (some : replacement ≠ [])
    (noneOld : Letterless letter pattern) (noneNew : Letterless letter replacement) (text : List Char) :
    SameRuns letter (Text.replaceAll pattern replacement text) text := by
  induction text using pattern_induction filled with
  | nil =>
      rw [Text.replaceAll]
      exact .nil
  | here text ih =>
      rw [replaceAll_here filled]
      exact ih.gap some filled noneNew noneOld
  | other c text absent ih =>
      rw [replaceAll_other absent]
      exact ih.keep c

end SameRuns

end Triage.Text
