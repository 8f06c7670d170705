import Triage.Proofs.Text.Runs

namespace Triage.Text

structure Gap (letter initial : Char → Bool) (text : List Char) : Prop where
  starts : ∃ c more, text = c :: more ∧ letter c = false
  inside : Letterless initial text

inductive SameWords (letter initial : Char → Bool) : List Char → List Char → Prop where
  | nil : SameWords letter initial [] []
  | keep (c : Char) : SameWords letter initial x y → SameWords letter initial (c :: x) (c :: y)
  | gap : Gap letter initial front → Gap letter initial back → SameWords letter initial x y →
      SameWords letter initial (front ++ x) (back ++ y)

structure Word (letter initial : Char → Bool) (word : List Char) : Prop where
  starts : ∃ c more, word = c :: more ∧ initial c = true
  letters : ∀ c ∈ word, letter c = true

variable {letter initial : Char → Bool} {word front back x y x' y' new new' : List Char}

theorem Gap.append (gap : Gap letter initial front) (inside : Letterless initial back) :
    Gap letter initial (front ++ back) := by
  obtain ⟨c, more, rfl, foreign⟩ := gap.starts
  exact ⟨⟨c, more ++ back, rfl, foreign⟩, letterless_append.mpr ⟨gap.inside, inside⟩⟩

theorem Gap.single (foreign : letter c = false) (inside : initial c = false) : Gap letter initial [c] :=
  ⟨⟨c, [], rfl, foreign⟩, letterless_cons.mpr ⟨inside, letterless_nil⟩⟩

theorem Word.filled (isWord : Word letter initial word) : word ≠ [] := by
  obtain ⟨c, more, rfl, _⟩ := isWord.starts
  exact List.cons_ne_nil _ _

theorem Gap.passes (gap : Gap letter initial front) (isWord : Word letter initial word) : Passes word front := by
  obtain ⟨c, more, rfl, first⟩ := isWord.starts
  apply Passes.lacking
  intro member
  rw [gap.inside c member] at first
  cases first

namespace SameWords

theorem refl (text : List Char) : SameWords letter initial text text := by
  induction text with
  | nil => exact .nil
  | cons c text ih => exact ih.keep c

theorem append (first : SameWords letter initial x y) (second : SameWords letter initial x' y') :
    SameWords letter initial (x ++ x') (y ++ y') := by
  induction first with
  | nil => exact second
  | keep c _ ih => exact ih.keep c
  | gap before after _ ih =>
      rw [List.append_assoc, List.append_assoc]
      exact ih.gap before after

theorem uncons (same : SameWords letter initial x y) (isLetter : letter c = true) :
    (∃ x', x = c :: x' ∧ ∃ y', y = c :: y' ∧ SameWords letter initial x' y') ∨ x.head? ≠ some c ∧ y.head? ≠ some c := by
  cases same with
  | nil => exact .inr ⟨nofun, nofun⟩
  | @keep x y d same =>
      by_cases here : d = c
      · subst d
        exact .inl ⟨x, rfl, y, rfl, same⟩
      · have unlike : ∀ rest : List Char, (d :: rest).head? ≠ some c := fun _ head => here (Option.some.inj head)
        exact .inr ⟨unlike x, unlike y⟩
  | @gap front back x y before after _ =>
      have unlike : ∀ {gap : List Char} (rest : List Char), Gap letter initial gap → (gap ++ rest).head? ≠ some c := by
        intro gap rest begins head
        obtain ⟨d, more, rfl, foreign⟩ := begins.starts
        cases Option.some.inj head
        rw [isLetter] at foreign
        cases foreign
      exact .inr ⟨unlike x before, unlike y after⟩

theorem after (same : SameWords letter initial (word ++ x) y) (letters : ∀ c ∈ word, letter c = true) :
    ∃ y', y = word ++ y' ∧ SameWords letter initial x y' := by
  induction word generalizing y with
  | nil => exact ⟨y, rfl, same⟩
  | cons c word ih =>
      obtain ⟨here, later⟩ := List.forall_mem_cons.mp letters
      rcases same.uncons here with ⟨x', parts, y', rfl, next⟩ | ⟨unlike, _⟩
      · cases parts
        obtain ⟨y'', rfl, behind⟩ := ih next later
        exact ⟨y'', rfl, behind⟩
      · exact absurd rfl unlike

theorem symm (same : SameWords letter initial x y) : SameWords letter initial y x := by
  induction same with
  | nil => exact .nil
  | keep c _ ih => exact ih.keep c
  | gap before after _ ih => exact ih.gap after before

theorem prefix_iff (same : SameWords letter initial x y) (letters : ∀ c ∈ word, letter c = true) :
    word <+: x ↔ word <+: y := by
  constructor
  · intro starts
    obtain ⟨rest, rfl⟩ := starts
    obtain ⟨rest', rfl, _⟩ := same.after letters
    exact List.prefix_append word rest'
  · intro starts
    obtain ⟨rest, rfl⟩ := starts
    obtain ⟨rest', rfl, _⟩ := same.symm.after letters
    exact List.prefix_append word rest'

theorem replaceAll (isWord : Word letter initial word) (news : SameWords letter initial new new')
    (same : SameWords letter initial x y) :
    SameWords letter initial (Text.replaceAll word new x) (Text.replaceAll word new' y) := by
  induction length : x.length using Nat.strong_induction_on generalizing x y with
  | _ n ih =>
    by_cases starts : word <+: x
    · obtain ⟨rest, rfl⟩ := starts
      obtain ⟨rest', rfl, behind⟩ := same.after isWord.letters
      have letters := List.length_pos_iff.mpr isWord.filled
      rw [List.length_append] at length
      rw [replaceAll_here isWord.filled, replaceAll_here isWord.filled]
      exact news.append (ih rest.length (by omega) behind rfl)
    · have absent := fun starts' => starts ((same.prefix_iff isWord.letters).mpr starts')
      cases same with
      | nil =>
          rw [Text.replaceAll, Text.replaceAll]
          exact .nil
      | @keep x y c same =>
          rw [List.length_cons] at length
          rw [replaceAll_other starts, replaceAll_other absent]
          exact (ih x.length (by omega) same rfl).keep c
      | @gap front back x y before after same =>
          obtain ⟨c, more, rfl, _⟩ := before.starts
          rw [List.length_append, List.length_cons] at length
          rw [replaceAll_passes (before.passes isWord), replaceAll_passes (after.passes isWord)]
          exact (ih x.length (by omega) same rfl).gap before after

theorem flatMap {write : Char → List Char}
    (each : ∀ c, write c = [c] ∨ letter c = false ∧ initial c = false ∧ Gap letter initial (write c)) (text : List Char) :
    SameWords letter initial (text.flatMap write) text := by
  induction text with
  | nil => exact .nil
  | cons c text ih =>
      rw [List.flatMap_cons]
      rcases each c with same | ⟨foreign, inside, gap⟩
      · rw [same]
        exact ih.keep c
      · exact ih.gap gap (.single foreign inside)

theorem map {write : Char → Char} (foreign : ∀ c, letter c = false → write c = c)
    (inside : ∀ c, initial c = false → initial (write c) = false) (same : SameWords letter initial x y) :
    SameWords letter initial (x.map write) (y.map write) := by
  have gaps : ∀ {gap : List Char}, Gap letter initial gap → Gap letter initial (gap.map write) := by
    intro gap isGap
    obtain ⟨c, more, rfl, unlike⟩ := isGap.starts
    refine ⟨⟨c, more.map write, by rw [List.map_cons, foreign c unlike], unlike⟩, ?_⟩
    exact List.forall_mem_map.mpr fun d member => inside d (isGap.inside d member)
  induction same with
  | nil => exact .nil
  | keep c _ ih => exact ih.keep (write c)
  | gap before after _ ih =>
      rw [List.map_append, List.map_append]
      exact ih.gap (gaps before) (gaps after)

end SameWords

end Triage.Text
