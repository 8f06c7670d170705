import Triage.Proofs.Text.Whole
import Triage.Proofs.Expr.Balance

namespace Triage.Connective
open Triage.Text Triage.Expr

theorem word_lettered (op : Connective) : Lettered op.word := by cases op <;> decide

theorem word_plain (op : Connective) : noParens op.word = true := by cases op <;> decide

end Triage.Connective

namespace Triage.Expr
open Triage.Text

-- A connective stands whole where as many parentheses are closed as were opened.
def HasConnective (text : List Char) : Prop :=
  ∃ before, ∃ op : Connective, ∃ after,
    Whole text before op.word after ∧ before.count '(' = before.count ')'

theorem count_plain (plain : noParens text = true) : text.count '(' = 0 ∧ text.count ')' = 0 := by
  simp only [noParens, List.all_eq_true, Bool.and_eq_true, bne_iff_ne] at plain
  exact ⟨List.count_eq_zero.mpr fun member => (plain _ member).1 rfl,
    List.count_eq_zero.mpr fun member => (plain _ member).2 rfl⟩

theorem connective?_eq_some : connective? inside text = some (op, rest) ↔
    inside = false ∧ text = op.word ++ rest ∧ opensWord rest = false := by
  constructor
  · intro found
    unfold connective? at found
    cases conjunct : wholeWord? Connective.and.word inside text with
    | some tail =>
        simp only [conjunct, Option.some.injEq, Prod.mk.injEq] at found
        obtain ⟨rfl, rfl⟩ := found
        exact wholeWord?_eq_some.mp conjunct
    | none =>
        simp only [conjunct, Option.map_eq_some_iff, Prod.mk.injEq] at found
        obtain ⟨tail, disjunct, rfl, rfl⟩ := found
        exact wholeWord?_eq_some.mp disjunct
  · intro whole
    have here : wholeWord? op.word inside text = some rest := wholeWord?_eq_some.mpr whole
    cases op with
    | and => simp [connective?, here]
    | or =>
        have other : wholeWord? Connective.and.word inside text = none := by
          rw [whole.1, whole.2.1]
          rfl
        simp [connective?, here, other]

def passed (account : Int × Bool) (c : Char) : Int × Bool := (depthAfter account.1 c, isWord c)

def operator? (account : Int × Bool) (text : List Char) : Option (Connective × List Char) :=
  if account.1 = 0 then connective? account.2 text else none

theorem operator?_eq_some : operator? account text = some (op, rest) ↔
    account.1 = 0 ∧ account.2 = false ∧ text = op.word ++ rest ∧ opensWord rest = false := by
  unfold operator?
  split
  · rename_i level
    simp [level, connective?_eq_some]
  · rename_i level
    simp [level]

theorem connective?_depth (depth : Int) (inside : Bool) (c : Char) (text : List Char) :
    (if depthAfter depth c = 0 then connective? inside (c :: text) else none) =
      operator? (depth, inside) (c :: text) := by
  cases found : connective? inside (c :: text) with
  | none => simp [operator?, found]
  | some result =>
      obtain ⟨op, rest⟩ := result
      have letter : depthAfter depth c = depth := by
        have parts := (connective?_eq_some.mp found).2.1
        cases op <;> cases parts <;> rfl
      simp only [operator?, letter, found]

theorem splitFrom?_eq_firstHit (depth : Int) (inside : Bool) (text : List Char) :
    splitFrom? depth inside text = firstHit passed operator? (depth, inside) text := by
  induction text generalizing depth inside with
  | nil => rfl
  | cons c text ih =>
      simp only [splitFrom?, firstHit, connective?_depth, ih]
      cases operator? (depth, inside) (c :: text) <;> rfl

theorem foldl_passed (text : List Char) : text.foldl passed (0, false) =
    ((text.count '(' : Int) - text.count ')', endsWord text) := by
  rw [← foldl_isWord]
  have general : ∀ depth inside, text.foldl passed (depth, inside) =
      (depth + text.count '(' - text.count ')', text.foldl (fun _ c => isWord c) inside) := by
    induction text with
    | nil => simp
    | cons c text ih =>
        intro depth inside
        simp only [List.foldl_cons, passed, ih, Prod.mk.injEq, and_true, depthAfter, List.count_cons]
        split
        · rename_i opens
          subst opens
          simp
          omega
        · rename_i notOpen
          split
          · rename_i closes
            subst closes
            simp
            omega
          · rename_i notClose
            simp [notOpen, notClose]
  simpa using general 0 false

-- The search finds nothing at a place where no connective stands whole.
theorem operator?_account (front text : List Char) :
    operator? (front.foldl passed (0, false)) text = some (op, rest) ↔
      Whole (front ++ text) front op.word rest ∧ front.count '(' = front.count ')' := by
  rw [foldl_passed, operator?_eq_some]
  constructor
  · rintro ⟨level, opens, parts, closes⟩
    exact ⟨⟨by rw [parts, List.append_assoc], opens, closes⟩, by omega⟩
  · rintro ⟨⟨parts, opens, closes⟩, level⟩
    rw [List.append_assoc] at parts
    exact ⟨by omega, opens, List.append_cancel_left parts, closes⟩

theorem split?_eq_none : split? text = none ↔ ¬HasConnective text := by
  rw [split?, splitFrom?_eq_firstHit, firstHit_eq_none]
  constructor
  · rintro missed ⟨before, op, after, whole, level⟩
    obtain ⟨first, letters, parts⟩ := List.exists_cons_of_ne_nil op.word_lettered.filled
    have cut : text = before ++ first :: (letters ++ after) := by
      rw [whole.parts, parts, List.append_assoc, List.cons_append]
    have found := (operator?_account before (first :: (letters ++ after))).mpr ⟨cut ▸ whole, level⟩
    rw [missed before first (letters ++ after) cut] at found
    cases found
  · intro absent front c back parts
    cases found : operator? (front.foldl passed (0, false)) (c :: back) with
    | none => rfl
    | some result =>
        obtain ⟨op, rest⟩ := result
        obtain ⟨whole, level⟩ := (operator?_account front (c :: back)).mp found
        exact absurd ⟨front, op, rest, parts ▸ whole, level⟩ absent

theorem split?_parts (found : split? text = some (left, op, right)) :
    Whole text left op.word right ∧ left.count '(' = left.count ')' := by
  rw [split?, splitFrom?_eq_firstHit] at found
  obtain ⟨c, back, rfl, here⟩ := firstHit_parts found
  exact (operator?_account left (c :: back)).mp here

theorem split?_single (found : split? text = some (left, op, right)) : ¬HasConnective left := by
  obtain ⟨whole, _⟩ := split?_parts found
  rw [split?, splitFrom?_eq_firstHit, whole.parts, List.append_assoc] at found
  rintro ⟨before, other, after, inside, level⟩
  obtain ⟨first, letters, word⟩ := List.exists_cons_of_ne_nil other.word_lettered.filled
  have missed := firstHit_missed found (show left = before ++ first :: (letters ++ after) by
    rw [inside.parts, word, List.append_assoc, List.cons_append])
  have wide : Whole ([] ++ left ++ (op.word ++ right)) ([] ++ before) other.word (after ++ (op.word ++ right)) :=
    inside.embed other.word_lettered (.inl rfl) (.inl whole.opens)
  have parts : first :: (letters ++ after) ++ (op.word ++ right) =
      other.word ++ (after ++ (op.word ++ right)) := by
    rw [word]
    simp only [List.cons_append, List.append_assoc]
  have here : operator? (before.foldl passed (0, false)) (other.word ++ (after ++ (op.word ++ right))) =
      some (other, after ++ (op.word ++ right)) :=
    (operator?_account before _).mpr ⟨⟨by rw [List.append_assoc], wide.opens, wide.closes⟩, level⟩
  rw [parts, here] at missed
  cases missed

instance (text : List Char) : Decidable (HasConnective text) :=
  decidable_of_iff (¬split? text = none) (by rw [split?_eq_none, Classical.not_not])

-- A text that has no connective of its own, and ends no word, is the left operand of the connective
-- that follows it.
theorem split?_join (single : ¬HasConnective left) (level : left.count '(' = left.count ')')
    (opens : endsWord left = false) (closes : opensWord right = false) :
    split? (left ++ (op.word ++ right)) = some (left, op, right) := by
  have missed : ∀ earlier c more, left = earlier ++ c :: more →
      operator? (earlier.foldl passed (0, false)) (c :: more ++ (op.word ++ right)) = none := by
    intro earlier c more parts
    cases found : operator? (earlier.foldl passed (0, false)) (c :: more ++ (op.word ++ right)) with
    | none => rfl
    | some result =>
        obtain ⟨other, rest⟩ := result
        obtain ⟨whole, even⟩ := (operator?_account _ _).mp found
        rw [← List.append_assoc, ← parts] at whole
        rcases whole.split other.word_lettered (Or.inl opens) with
          ⟨tail, inside, _⟩ | ⟨tail, _, beyond⟩
        · exact absurd ⟨earlier, other, tail, inside, even⟩ single
        · have sizes := congrArg List.length (parts.trans (congrArg (· ++ c :: more) beyond))
          simp only [List.length_append, List.length_cons] at sizes
          omega
  have here : operator? (left.foldl passed (0, false)) (op.word ++ right) = some (op, right) :=
    (operator?_account _ _).mpr ⟨⟨by rw [List.append_assoc], opens, closes⟩, level⟩
  rw [split?, splitFrom?_eq_firstHit, firstHit_append missed, firstHit_here here (by simp [op.word_lettered.filled])]
  simp

theorem HasConnective.extend (has : HasConnective text) (leading : allBlank lead = true)
    (trailing : allBlank trail = true) : HasConnective (lead ++ text ++ trail) := by
  obtain ⟨before, op, after, whole, level⟩ := has
  refine ⟨_, op, _, whole.extend (endsWord_blank leading) (opensWord_blank trailing), ?_⟩
  have none := count_plain (noParens_blank leading)
  rw [List.count_append, List.count_append, none.1, none.2, level]

theorem hasConnective_trim (has : HasConnective (trim text)) : HasConnective text := by
  obtain ⟨lead, trail, leading, trailing, parts⟩ := trim_parts text
  rw [parts]
  exact has.extend leading trailing

theorem hasConnective_append (level : front.count '(' = front.count ')')
    (seam : endsWord front = false ∨ opensWord back = false) (has : HasConnective (front ++ back)) :
    HasConnective front ∨ HasConnective back := by
  obtain ⟨before, op, after, whole, even⟩ := has
  rcases whole.split op.word_lettered seam with ⟨rest, inside, _⟩ | ⟨rest, inside, beyond⟩
  · exact Or.inl ⟨before, op, rest, inside, even⟩
  · refine Or.inr ⟨rest, op, after, inside, ?_⟩
    rw [beyond, List.count_append, List.count_append] at even
    omega

theorem hasConnective_append_blank (blank : allBlank trail = true) (has : HasConnective (text ++ trail)) :
    HasConnective text := by
  obtain ⟨before, op, after, whole, level⟩ := has
  rcases whole.split op.word_lettered (Or.inr (opensWord_blank blank)) with
    ⟨rest, inside, _⟩ | ⟨rest, inside, _⟩
  · exact ⟨before, op, rest, inside, level⟩
  · rw [inside.parts, allBlank_append, allBlank_append, Bool.and_eq_true, Bool.and_eq_true] at blank
    have letters : opensWord (op.word ++ []) = true := opensWord_word op.word_lettered
    rw [List.append_nil, opensWord_blank blank.1.2] at letters
    cases letters

theorem not_hasConnective_group (balanced : Balanced inside) : ¬HasConnective ('(' :: inside ++ [')']) := by
  rintro ⟨before, op, after, whole, level⟩
  have parts := whole.parts
  cases before with
  | nil => cases op <;> cases parts
  | cons first before =>
      simp only [List.cons_append, List.cons.injEq] at parts
      obtain ⟨rfl, parts⟩ := parts
      have sizes := congrArg List.length parts
      have letters := List.length_pos_iff.mpr op.word_lettered.filled
      simp only [List.length_append, List.length_singleton] at sizes
      have front : before <+: inside := by
        refine List.prefix_of_prefix_length_le ?_ (List.prefix_append inside [')']) (by omega)
        exact ⟨op.word ++ after, by rw [parts, List.append_assoc]⟩
      obtain ⟨back, rfl⟩ := front
      have bound := balanced.sane before back rfl
      simp only [List.count_cons_self, List.count_cons_of_ne (show '(' ≠ ')' by decide)] at level
      omega

end Triage.Expr
