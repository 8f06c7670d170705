import Mathlib.Data.List.Basic
import Triage.Proofs.Expr.Connective

namespace Triage.Datum

@[simp] theorem display_ofChars (text : List Char) : (ofChars text).display = text := String.toList_ofList

@[simp] theorem checked_ofChars (text : List Char) : (ofChars text).checked = .ok (ofChars text) := by
  simp [checked, ofChars, writable]

end Triage.Datum

namespace Triage.Expr
open Triage.Text

def IsNot (word : List Char) : Prop := word.map Char.toUpper = "NOT".toList

def HasNot (text : List Char) : Prop := ∃ before word after, Whole text before word after ∧ IsNot word

theorem isWord_toUpper (letter : isWord c.toUpper = true) : isWord c = true := by
  unfold Char.toUpper at letter
  split at letter
  · rename_i small
    have ascii : c.toNat < 128 := Nat.lt_of_le_of_lt (UInt32.le_iff_toNat_le.mp small.2) (by decide)
    have lower : c.isLower = true := by
      show (decide (c.val ≥ 'a'.val) && decide (c.val ≤ 'z'.val)) = true
      simpa only [Bool.and_eq_true, decide_eq_true_eq] using small
    have letter : c.isAlphanum = true := by
      show (c.isUpper || c.isLower || c.isDigit) = true
      simp only [lower, Bool.or_true, Bool.true_or]
    simp [isWord, ascii, letter]
  · exact letter

namespace IsNot

theorem lettered (isNot : IsNot word) : Lettered word := by
  constructor
  · rw [List.all_eq_true]
    intro c member
    have upper : c.toUpper ∈ "NOT".toList := isNot ▸ List.mem_map_of_mem member
    have letters : Lettered "NOT".toList := by decide
    exact isWord_toUpper (letters.letter upper)
  · rintro rfl
    cases isNot

theorem plain (isNot : IsNot word) : noParens word = true := by
  simp only [noParens, List.all_eq_true, Bool.and_eq_true, bne_iff_ne]
  intro c member
  have upper : c.toUpper ∈ "NOT".toList := isNot ▸ List.mem_map_of_mem member
  constructor <;> rintro rfl <;> revert upper <;> decide

end IsNot

theorem isNot_iff : IsNot word ↔
    ∃ n o t, word = [n, o, t] ∧ n.toUpper = 'N' ∧ o.toUpper = 'O' ∧ t.toUpper = 'T' := by
  constructor
  · intro isNot
    have size : word.length = 3 := by simpa using congrArg List.length isNot
    obtain ⟨n, o, t, rfl⟩ := List.length_eq_three.mp size
    exact ⟨n, o, t, rfl, by simpa [IsNot] using isNot⟩
  · rintro ⟨n, o, t, rfl, first, second, third⟩
    simp [IsNot, first, second, third]

theorem not?_eq_some : not? inside text = some rest ↔
    inside = false ∧ ∃ word, IsNot word ∧ text = word ++ rest ∧ opensWord rest = false := by
  unfold not?
  cases inside with
  | true => simp
  | false =>
      simp only [Bool.false_eq_true, if_false, true_and]
      constructor
      · intro found
        split at found
        · rename_i n o t tail
          split at found
          · rename_i letters
            simp only [Bool.and_eq_true, decide_eq_true_eq, Bool.not_eq_true'] at letters
            cases found
            obtain ⟨⟨⟨first, second⟩, third⟩, closes⟩ := letters
            exact ⟨[n, o, t], isNot_iff.mpr ⟨n, o, t, rfl, first, second, third⟩, rfl, closes⟩
          · cases found
        · cases found
      · rintro ⟨word, isNot, rfl, closes⟩
        obtain ⟨n, o, t, rfl, first, second, third⟩ := isNot_iff.mp isNot
        simp [first, second, third, closes]

theorem withoutNot?_eq_firstHit (inside : Bool) (text : List Char) :
    withoutNot? inside text =
      (firstHit (fun _ c => isWord c) not? inside text).map fun (front, rest) => front ++ rest := by
  induction text generalizing inside with
  | nil => rfl
  | cons c text ih =>
      simp only [withoutNot?, firstHit, ih]
      cases not? inside (c :: text) with
      | some rest => rfl
      | none => simp [Option.map_map, Function.comp_def]

theorem withoutNot?_parts (found : withoutNot? false text = some rest) :
    ∃ before word after, Whole text before word after ∧ IsNot word ∧ rest = before ++ after := by
  rw [withoutNot?_eq_firstHit] at found
  obtain ⟨⟨before, after⟩, hit, rfl⟩ := Option.map_eq_some_iff.mp found
  obtain ⟨c, back, rfl, here⟩ := firstHit_parts hit
  rw [foldl_isWord] at here
  obtain ⟨opens, word, isNot, cut, closes⟩ := not?_eq_some.mp here
  exact ⟨before, word, after, ⟨by rw [cut, List.append_assoc], opens, closes⟩, isNot, rfl⟩

theorem withoutNot?_eq_none : withoutNot? false text = none ↔ ¬HasNot text := by
  constructor
  · rintro missed ⟨before, word, after, ⟨parts, opens, closes⟩, isNot⟩
    rw [withoutNot?_eq_firstHit, Option.map_eq_none_iff, firstHit_eq_none] at missed
    obtain ⟨first, letters, split⟩ := List.exists_cons_of_ne_nil isNot.lettered.filled
    have cut : text = before ++ first :: (letters ++ after) := by
      rw [parts, split, List.append_assoc, List.cons_append]
    have nothing := missed before first (letters ++ after) cut
    have found : not? false (first :: (letters ++ after)) = some after :=
      not?_eq_some.mpr ⟨rfl, word, isNot, by rw [split, List.cons_append], closes⟩
    rw [foldl_isWord, opens, found] at nothing
    cases nothing
  · intro absent
    cases found : withoutNot? false text with
    | none => rfl
    | some rest =>
        obtain ⟨before, word, after, whole, isNot, _⟩ := withoutNot?_parts found
        exact absurd ⟨before, word, after, whole, isNot⟩ absent

instance (text : List Char) : Decidable (HasNot text) :=
  decidable_of_iff (¬withoutNot? false text = none) (by rw [withoutNot?_eq_none, Classical.not_not])

theorem withoutNot?_start (closes : opensWord rest = false) :
    withoutNot? false ("NOT".toList ++ rest) = some rest := by
  have here : not? false ("NOT".toList ++ rest) = some rest :=
    not?_eq_some.mpr ⟨rfl, "NOT".toList, by simp [IsNot], rfl, closes⟩
  rw [withoutNot?_eq_firstHit, firstHit_here here (by simp)]
  rfl

structure Legible (name : List Char) (negated : Bool) : Prop where
  filled : name ≠ []
  trimmed : trim name = name
  balanced : Balanced name
  single : ¬HasConnective name
  bare : negated = false → ¬HasNot name ∧ ¬IsGroup name

instance (name : List Char) (negated : Bool) : Decidable (Legible name negated) :=
  decidable_of_iff (name ≠ [] ∧ trim name = name ∧ Balanced name ∧ ¬HasConnective name ∧
      (negated = false → ¬HasNot name ∧ ¬IsGroup name))
    ⟨fun ⟨filled, trimmed, balanced, single, bare⟩ => ⟨filled, trimmed, balanced, single, bare⟩,
      fun ⟨filled, trimmed, balanced, single, bare⟩ => ⟨filled, trimmed, balanced, single, bare⟩⟩

inductive EveryLeaf (allows : List Char → Bool → Prop) : Expr → Prop where
  | leaf : allows name negated → EveryLeaf allows (.leaf ⟨Datum.ofChars name, negated⟩)
  | node : EveryLeaf allows left → EveryLeaf allows right → EveryLeaf allows (.node op left right)

theorem EveryLeaf.imp (weaker : ∀ name negated, allows name negated → other name negated)
    (every : EveryLeaf allows e) : EveryLeaf other e := by
  induction every with
  | leaf here => exact .leaf (weaker _ _ here)
  | node _ _ left right => exact .node left right

-- No connective comes about where a NOT is cut out: on either side of it there is no letter.
theorem hasConnective_without (whole : Whole text before word after) (isNot : IsNot word)
    (has : HasConnective (before ++ after)) : HasConnective text := by
  obtain ⟨front, op, back, inner, level⟩ := has
  rcases inner.split op.word_lettered (Or.inl whole.opens) with
    ⟨rest, inside, _⟩ | ⟨rest, inside, beyond⟩
  · have filled : rest ≠ [] := by
      rintro rfl
      have ends : endsWord (front ++ op.word) = true := endsWord_word op.word_lettered
      rw [← List.append_nil (front ++ op.word), ← inside.parts, whole.opens] at ends
      cases ends
    refine ⟨front, op, rest ++ (word ++ after), ⟨?_, inside.opens, ?_⟩, level⟩
    · rw [whole.parts, inside.parts]
      simp only [List.append_assoc]
    · rw [opensWord_append filled]
      exact inside.closes
  · have filled : rest ≠ [] := by
      rintro rfl
      have starts : opensWord (op.word ++ back) = true := opensWord_word op.word_lettered
      rw [← List.nil_append op.word, ← inside.parts, whole.closes] at starts
      cases starts
    refine ⟨before ++ word ++ rest, op, back, ⟨?_, ?_, inside.closes⟩, ?_⟩
    · rw [whole.parts, inside.parts]
      simp only [List.append_assoc]
    · rw [endsWord_append filled]
      exact inside.opens
    · have none := count_plain isNot.plain
      rw [beyond, List.count_append, List.count_append] at level
      simp only [List.count_append, none.1, none.2]
      omega

theorem readCondition_bare (bare : ¬HasNot text) (trimmed : trim text = text) (filled : text ≠ []) :
    readCondition text = .ok ⟨Datum.ofChars text, false⟩ := by
  simp [readCondition, withoutNot?_eq_none.mpr bare, trimmed, filled]

theorem readCondition_negated (trimmed : trim name = name) (filled : name ≠ []) :
    readCondition ("NOT ".toList ++ name) = .ok ⟨Datum.ofChars name, true⟩ := by
  have cut : withoutNot? false ("NOT ".toList ++ name) = some (' ' :: name) :=
    withoutNot?_start (show opensWord (' ' :: name) = false by rfl)
  have inner : trim (' ' :: name) = name := by
    rw [← List.singleton_append, trim_append_left (by rfl), trimmed]
  simp only [readCondition, cut, inner]
  simp [filled]

-- The ways to read a condition: a text without a NOT is a name as a whole, and from another text the
-- first NOT is cut out.
inductive ReadsAs (text : List Char) : Condition → Prop where
  | bare (bare : ¬HasNot text) (filled : trim text ≠ []) : ReadsAs text ⟨Datum.ofChars (trim text), false⟩
  | negated (whole : Whole text before word after) (isNot : IsNot word) (filled : trim (before ++ after) ≠ []) :
      ReadsAs text ⟨Datum.ofChars (trim (before ++ after)), true⟩

theorem readCondition_reads (accepted : readCondition text = .ok condition) : ReadsAs text condition := by
  unfold readCondition at accepted
  cases cut : withoutNot? false text with
  | none =>
      simp only [cut] at accepted
      split at accepted
      · cases accepted
      · rename_i filled
        cases accepted
        exact .bare (withoutNot?_eq_none.mp cut) (by simpa using filled)
  | some rest =>
      simp only [cut] at accepted
      split at accepted
      · cases accepted
      · rename_i filled
        cases accepted
        obtain ⟨before, word, after, whole, isNot, rfl⟩ := withoutNot?_parts cut
        exact .negated whole isNot (by simpa using filled)

theorem readCondition_legible (trimmed : trim text = text) (balanced : Balanced text)
    (single : ¬HasConnective text) (loose : ¬IsGroup text) (accepted : readCondition text = .ok condition) :
    ∃ name, condition.statement = Datum.ofChars name ∧ Legible name condition.negated := by
  cases readCondition_reads accepted with
  | bare bare filled =>
      rw [trimmed] at filled ⊢
      exact ⟨text, rfl, filled, trimmed, balanced, single, fun _ => ⟨bare, loose⟩⟩
  | negated whole isNot filled =>
      rw [whole.parts, Balanced.insert isNot.plain] at balanced
      have single : ¬HasConnective (trim (_ ++ _)) := fun has =>
        single (hasConnective_without whole isNot (hasConnective_trim has))
      exact ⟨_, rfl, filled, trim_trim _, balanced_trim.mpr balanced, single, by simp⟩

end Triage.Expr
