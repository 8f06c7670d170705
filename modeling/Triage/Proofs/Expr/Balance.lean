import Triage.Expr.Parser
import Triage.Proofs.Text.Trim

namespace Triage.Expr
open Triage.Text

structure Balanced (text : List Char) : Prop where
  sane : ∀ front back, text = front ++ back → front.count ')' ≤ front.count '('
  settled : text.count ')' = text.count '('

def IsGroup (text : List Char) : Prop := ∃ inside, text = '(' :: inside ++ [')'] ∧ Balanced inside

def noParens (text : List Char) : Bool := text.all fun c => c != '(' && c != ')'

def level? (depth : Nat) : List Char → Option Nat
  | [] => some depth
  | c :: text =>
      if c = '(' then level? (depth + 1) text
      else if c = ')' then
        match depth with
        | 0 => none
        | depth + 1 => level? depth text
      else level? depth text

@[simp] theorem level?_open (depth : Nat) (text : List Char) :
    level? depth ('(' :: text) = level? (depth + 1) text := by
  simp [level?]

@[simp] theorem level?_close (depth : Nat) (text : List Char) :
    level? (depth + 1) (')' :: text) = level? depth text := by
  simp [level?]

@[simp] theorem level?_close_zero (text : List Char) : level? 0 (')' :: text) = none := by
  simp [level?]

theorem level?_other (opens : c ≠ '(') (closes : c ≠ ')') (depth : Nat) (text : List Char) :
    level? depth (c :: text) = level? depth text := by
  simp [level?, opens, closes]

theorem level?_append (depth : Nat) (front back : List Char) :
    level? depth (front ++ back) = (level? depth front).bind fun reached => level? reached back := by
  induction front generalizing depth with
  | nil => rfl
  | cons c front ih =>
      rw [List.cons_append]
      by_cases opens : c = '('
      · simp only [opens, level?_open, ih]
      · by_cases closes : c = ')'
        · cases depth with
          | zero => simp only [closes, level?_close_zero, Option.bind_none]
          | succ depth => simp only [closes, level?_close, ih]
        · simp only [level?_other opens closes, ih]

theorem level?_counts (reached : level? depth text = some final) :
    final + text.count ')' = depth + text.count '(' := by
  induction text generalizing depth with
  | nil => simpa [level?, eq_comm] using reached
  | cons c text ih =>
      by_cases opens : c = '('
      · rw [opens, level?_open] at reached
        have rest := ih reached
        simp only [opens, List.count_cons_self, List.count_cons_of_ne (show '(' ≠ ')' by decide)]
        omega
      · by_cases closes : c = ')'
        · cases depth with
          | zero => simp [closes] at reached
          | succ depth =>
              rw [closes, level?_close] at reached
              have rest := ih reached
              simp only [closes, List.count_cons_self, List.count_cons_of_ne (show ')' ≠ '(' by decide)]
              omega
        · rw [level?_other opens closes] at reached
          simpa only [List.count_cons_of_ne opens, List.count_cons_of_ne closes] using ih reached

theorem level?_shift (reached : level? depth text = some final) (more : Nat) :
    level? (depth + more) text = some (final + more) := by
  induction text generalizing depth with
  | nil =>
      cases reached
      rfl
  | cons c text ih =>
      by_cases opens : c = '('
      · rw [opens, level?_open] at reached ⊢
        rw [Nat.add_right_comm]
        exact ih reached
      · by_cases closes : c = ')'
        · cases depth with
          | zero => simp [closes] at reached
          | succ depth =>
              rw [closes, level?_close] at reached
              rw [closes, Nat.add_right_comm, level?_close]
              exact ih reached
        · rw [level?_other opens closes] at reached ⊢
          exact ih reached

theorem level?_plain (plain : noParens text = true) (depth : Nat) : level? depth text = some depth := by
  induction text with
  | nil => rfl
  | cons c text ih =>
      simp only [noParens, List.all_cons, Bool.and_eq_true, bne_iff_ne] at plain ih
      rw [level?_other plain.1.1 plain.1.2]
      exact ih plain.2

theorem level?_reached (sane : ∀ front back, text = front ++ back → front.count ')' ≤ depth + front.count '(') :
    ∃ final, level? depth text = some final := by
  induction text generalizing depth with
  | nil => exact ⟨depth, rfl⟩
  | cons c text ih =>
      have later : ∀ front back, text = front ++ back →
          (c :: front).count ')' ≤ depth + (c :: front).count '(' :=
        fun front back parts => sane (c :: front) back (by rw [parts, List.cons_append])
      by_cases opens : c = '('
      · rw [opens, level?_open]
        refine ih fun front back parts => ?_
        have bound := later front back parts
        simp only [opens, List.count_cons_self, List.count_cons_of_ne (show '(' ≠ ')' by decide)] at bound
        omega
      · by_cases closes : c = ')'
        · cases depth with
          | zero =>
              have bound := later [] text rfl
              simp [closes] at bound
          | succ depth =>
              rw [closes, level?_close]
              refine ih fun front back parts => ?_
              have bound := later front back parts
              simp only [closes, List.count_cons_self, List.count_cons_of_ne (show ')' ≠ '(' by decide)] at bound
              omega
        · rw [level?_other opens closes]
          refine ih fun front back parts => ?_
          simpa only [List.count_cons_of_ne opens, List.count_cons_of_ne closes] using later front back parts

theorem balanced_iff_level : Balanced text ↔ level? 0 text = some 0 := by
  constructor
  · rintro ⟨sane, settled⟩
    have bound : ∀ front back, text = front ++ back → front.count ')' ≤ 0 + front.count '(' := by
      simpa using sane
    obtain ⟨final, reached⟩ := level?_reached bound
    have counts := level?_counts reached
    have closed : final = 0 := by omega
    rw [reached, closed]
  · intro reached
    refine ⟨fun front back parts => ?_, by simpa using level?_counts reached⟩
    rw [parts, level?_append] at reached
    obtain ⟨middle, here, _⟩ := Option.bind_eq_some_iff.mp reached
    have counts := level?_counts here
    omega

instance (text : List Char) : Decidable (Balanced text) := decidable_of_iff _ balanced_iff_level.symm

namespace Balanced

theorem append (left : Balanced front) (right : Balanced back) : Balanced (front ++ back) := by
  rw [balanced_iff_level] at left right ⊢
  rw [level?_append, left]
  exact right

theorem enclose (balanced : Balanced inside) : Balanced ('(' :: inside ++ [')']) := by
  rw [balanced_iff_level] at balanced ⊢
  have shifted : level? 1 inside = some 1 := level?_shift balanced 1
  rw [List.cons_append, level?_open, level?_append, shifted]
  rfl

theorem plain (plain : noParens text = true) : Balanced text := balanced_iff_level.mpr (level?_plain plain 0)

theorem split (balanced : Balanced (front ++ back)) (even : front.count '(' = front.count ')') :
    Balanced front ∧ Balanced back := by
  rw [balanced_iff_level, level?_append] at balanced
  obtain ⟨middle, here, rest⟩ := Option.bind_eq_some_iff.mp balanced
  have counts := level?_counts here
  have closed : middle = 0 := by omega
  rw [closed] at here rest
  exact ⟨balanced_iff_level.mpr here, balanced_iff_level.mpr rest⟩

theorem insert (plain : noParens middle = true) :
    Balanced (front ++ middle ++ back) ↔ Balanced (front ++ back) := by
  simp only [balanced_iff_level, level?_append, level?_plain plain, Option.bind_assoc, Option.bind_some]

end Balanced

theorem noParens_blank (blank : allBlank text = true) : noParens text = true := by
  simp only [noParens, allBlank, List.all_eq_true, Bool.and_eq_true, bne_iff_ne] at blank ⊢
  intro c member
  have here := blank c member
  constructor <;> rintro rfl <;> simp [isBlank] at here

theorem balanced_trim : Balanced (trim text) ↔ Balanced text := by
  obtain ⟨lead, trail, leading, trailing, parts⟩ := trim_parts text
  have front : Balanced ([] ++ lead ++ (trim text ++ trail)) ↔ Balanced ([] ++ (trim text ++ trail)) :=
    Balanced.insert (noParens_blank leading)
  have back : Balanced (trim text ++ trail ++ []) ↔ Balanced (trim text ++ []) :=
    Balanced.insert (noParens_blank trailing)
  simp only [List.nil_append, List.append_nil] at front back
  rw [← back, ← front, ← List.append_assoc, ← parts]

theorem balanced_trimLeft : Balanced (trimLeft text) ↔ Balanced text := by
  obtain ⟨lead, blank, parts⟩ := trimLeft_parts text
  have front : Balanced ([] ++ lead ++ trimLeft text) ↔ Balanced ([] ++ trimLeft text) :=
    Balanced.insert (noParens_blank blank)
  simp only [List.nil_append] at front
  rw [← front, ← parts]

theorem closing?_eq_some :
    closing? depth text = some inside ↔ text = inside ++ [')'] ∧ level? depth inside = some 0 := by
  induction text generalizing depth inside with
  | nil => simp [closing?]
  | cons c text ih =>
      by_cases closes : c = ')'
      · subst closes
        cases depth with
        | zero =>
            -- The closing parenthesis that is looked for: nothing may follow it.
            cases inside with
            | nil => cases text <;> simp [closing?, level?]
            | cons first inside =>
                simp only [closing?, if_true, List.cons_append, List.cons.injEq]
                constructor
                · intro found
                  split at found <;> cases found
                · rintro ⟨⟨rfl, _⟩, reached⟩
                  simp at reached
        | succ depth =>
            simp only [closing?, if_true, Option.map_eq_some_iff, ih]
            cases inside with
            | nil => simp [level?]
            | cons first inside =>
                simp only [List.cons.injEq, List.cons_append, exists_eq_right_right]
                constructor
                · rintro ⟨⟨rfl, reached⟩, rfl⟩
                  exact ⟨⟨rfl, rfl⟩, by simpa using reached⟩
                · rintro ⟨⟨rfl, rfl⟩, reached⟩
                  exact ⟨⟨rfl, by simpa using reached⟩, rfl⟩
      · have next : level? (if c = '(' then depth + 1 else depth) = fun rest => level? depth (c :: rest) := by
          funext rest
          by_cases opens : c = '('
          · simp [opens]
          · simp [opens, level?_other opens closes]
        simp only [closing?, if_neg closes, Option.map_eq_some_iff, ih, next]
        cases inside with
        | nil => simp [closes]
        | cons first inside =>
            simp only [List.cons.injEq, List.cons_append, exists_eq_right_right]
            constructor
            · rintro ⟨⟨rfl, reached⟩, rfl⟩
              exact ⟨⟨rfl, rfl⟩, reached⟩
            · rintro ⟨⟨rfl, rfl⟩, reached⟩
              exact ⟨⟨rfl, reached⟩, rfl⟩

theorem unwrap?_eq_some : unwrap? text = some inside ↔ text = '(' :: inside ++ [')'] ∧ Balanced inside := by
  rw [balanced_iff_level]
  unfold unwrap?
  split
  · rw [closing?_eq_some]
    simp
  · rename_i other
    simp only [reduceCtorEq, false_iff, not_and]
    intro parts
    exact absurd parts (other _)

theorem unwrap?_eq_none : unwrap? text = none ↔ ¬IsGroup text := by
  simp only [Option.eq_none_iff_forall_ne_some, ne_eq, unwrap?_eq_some, IsGroup, not_exists]

instance (text : List Char) : Decidable (IsGroup text) :=
  decidable_of_iff ((unwrap? text).isSome = true) (by simp only [Option.isSome_iff_exists, unwrap?_eq_some, IsGroup])

-- The first parenthesis of a balanced text closes within that text.
theorem not_isGroup_append (balanced : Balanced front) (filled : front ≠ []) (more : back ≠ []) :
    ¬IsGroup (front ++ back) := by
  rintro ⟨inside, parts, inner⟩
  obtain ⟨first, rest, rfl⟩ := List.exists_cons_of_ne_nil filled
  obtain ⟨tail, last, rfl⟩ := List.eq_nil_or_concat back |>.resolve_left more
  simp only [List.cons_append, List.cons.injEq, List.concat_eq_append, ← List.append_assoc] at parts
  obtain ⟨rfl, parts⟩ := parts
  have whole : inside = rest ++ tail := (List.append_inj' parts rfl).1.symm
  rw [balanced_iff_level, level?_open] at balanced
  rw [balanced_iff_level, whole, level?_append] at inner
  obtain ⟨middle, reached, _⟩ := Option.bind_eq_some_iff.mp inner
  have shifted := level?_shift reached 1
  rw [balanced] at shifted
  simp at shifted

end Triage.Expr
