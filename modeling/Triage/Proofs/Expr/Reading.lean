import Triage.Proofs.Expr.Leaf
import Triage.Proofs.Outcome

namespace Triage.Expr
open Triage.Text

theorem readTrimmed_group (inner : unwrap? text = some inside) : readTrimmed text = read inside := by
  rw [readTrimmed]
  split
  · rename_i found wrapped
    rw [inner] at wrapped
    cases wrapped
    rfl
  · rename_i wrapped
    rw [inner] at wrapped
    cases wrapped

theorem readTrimmed_split (loose : unwrap? text = none) (cut : split? text = some (left, op, right)) :
    readTrimmed text =
      if allBlank left || allBlank right then .error (.missingOperand text)
      else do return .node op (← read left) (← read right) := by
  rw [readTrimmed]
  split
  · rename_i wrapped
    rw [loose] at wrapped
    cases wrapped
  · split
    · rename_i found
      rw [cut] at found
      cases found
      simp only [trim_isEmpty]
      rfl
    · rename_i found
      rw [cut] at found
      cases found

theorem readTrimmed_leaf (loose : unwrap? text = none) (uncut : split? text = none) :
    readTrimmed text = (readCondition text).map .leaf := by
  rw [readTrimmed]
  split
  · rename_i wrapped
    rw [loose] at wrapped
    cases wrapped
  · split
    · rename_i found
      rw [uncut] at found
      cases found
    · rfl

-- How a tree comes of a text, step by step of the reader.
inductive Denotes : List Char → Expr → Prop where
  | group (wrapped : unwrap? text = some inside) (inner : Denotes (trim inside) e) : Denotes text e
  | join (loose : unwrap? text = none) (cut : split? text = some (left, op, right)) (first : Denotes (trim left) l)
      (second : Denotes (trim right) r) : Denotes text (.node op l r)
  | leaf (loose : unwrap? text = none) (uncut : split? text = none) (found : readCondition text = .ok condition) :
      Denotes text (.leaf condition)

theorem readTrimmed_denotes (accepted : readTrimmed text = .ok e) : Denotes text e := by
  induction text using readTrimmed.induct generalizing e with
  | case1 text inside wrapped ih =>
      rw [readTrimmed_group wrapped] at accepted
      exact .group wrapped (ih accepted)
  | case2 text loose left op right cut blank =>
      rw [readTrimmed_split loose cut, ← trim_isEmpty, ← trim_isEmpty, if_pos blank] at accepted
      cases accepted
  | case3 text loose left op right cut solid ihLeft ihRight =>
      rw [readTrimmed_split loose cut, ← trim_isEmpty, ← trim_isEmpty, if_neg solid] at accepted
      obtain ⟨l, leftRead, accepted⟩ := bind_eq_ok.mp accepted
      obtain ⟨r, rightRead, accepted⟩ := bind_eq_ok.mp accepted
      cases accepted
      exact .join loose cut (ihLeft leftRead) (ihRight rightRead)
  | case4 text loose uncut =>
      rw [readTrimmed_leaf loose uncut] at accepted
      cases found : readCondition text with
      | error fault =>
          rw [found] at accepted
          cases accepted
      | ok condition =>
          rw [found] at accepted
          cases accepted
          exact .leaf loose uncut found

-- What a text hands on to the inside of a group and to both operands of a connective comes down to
-- the texts that are leaves.
theorem readTrimmed_every (keeps : List Char → Prop)
    (group : ∀ {text inside}, keeps text → unwrap? text = some inside → keeps (trim inside))
    (operands : ∀ {text left op right}, keeps text → split? text = some (left, op, right) →
      keeps (trim left) ∧ keeps (trim right))
    (leaf : ∀ {text condition}, keeps text → unwrap? text = none → split? text = none →
      readCondition text = .ok condition →
        ∃ name, condition.statement = Datum.ofChars name ∧ allows name condition.negated)
    (kept : keeps text) (accepted : readTrimmed text = .ok e) : EveryLeaf allows e := by
  have denotes := readTrimmed_denotes accepted
  clear accepted
  induction denotes with
  | group wrapped _ ih => exact ih (group kept wrapped)
  | join _ cut _ _ ihLeft ihRight =>
      obtain ⟨first, second⟩ := operands kept cut
      exact .node (ihLeft first) (ihRight second)
  | @leaf text condition loose uncut found =>
      obtain ⟨name, named, allowed⟩ := leaf kept loose uncut found
      obtain ⟨statement, negated⟩ := condition
      cases named
      exact .leaf allowed

theorem read_group (balanced : Balanced inside) : read ('(' :: inside ++ [')']) = read inside := by
  rw [read, trim_enclosed (by rfl) (by rfl)]
  exact readTrimmed_group (unwrap?_eq_some.mpr ⟨rfl, balanced⟩)

theorem read_leaf (loose : ¬IsGroup (trim text)) (single : ¬HasConnective (trim text)) :
    read text = (readCondition (trim text)).map .leaf :=
  readTrimmed_leaf (unwrap?_eq_none.mpr loose) (split?_eq_none.mpr single)

theorem trim_join (op : Connective) (left right : List Char) :
    trim (left ++ (op.word ++ right)) = trimLeft left ++ (op.word ++ trimRight right) := by
  cases op with
  | and =>
      have front := trimLeft_append_solid (show isBlank 'A' = false by rfl) left ('N' :: 'D' :: right)
      have back := trimRight_append_solid (show isBlank 'D' = false by rfl) (trimLeft left ++ ['A', 'N']) right
      simp only [List.append_assoc, List.cons_append, List.nil_append] at back
      exact (congrArg trimRight front).trans back
  | or =>
      have front := trimLeft_append_solid (show isBlank 'O' = false by rfl) left ('R' :: right)
      have back := trimRight_append_solid (show isBlank 'R' = false by rfl) (trimLeft left ++ ['O']) right
      simp only [List.append_assoc, List.cons_append, List.nil_append] at back
      exact (congrArg trimRight front).trans back

theorem read_spaced (leading : allBlank lead = true) (trailing : allBlank trail = true) :
    read (lead ++ text ++ trail) = read text := by
  rw [read, trim_append_right trailing, trim_append_left leading, read]

-- A text is taken for one group exactly when it is a pair of parentheses around a balanced text, and
-- then that text is read, however many blanks stand inside and outside of the pair.
theorem read_enclosed :
    (∀ text, (unwrap? text).isSome = true ↔ ∃ inside, text = '(' :: inside ++ [')'] ∧ Balanced inside) ∧
    ∀ inside lead trail before after, Balanced inside → allBlank lead = true → allBlank trail = true →
      allBlank before = true → allBlank after = true →
      read (before ++ ('(' :: (lead ++ inside ++ trail) ++ [')']) ++ after) = read inside := by
  constructor
  · intro text
    simp only [Option.isSome_iff_exists, unwrap?_eq_some]
  · intro inside lead trail before after balanced leading trailing preceding following
    have spaced : Balanced (lead ++ inside ++ trail) :=
      ((Balanced.plain (noParens_blank leading)).append balanced).append (.plain (noParens_blank trailing))
    calc read (before ++ ('(' :: (lead ++ inside ++ trail) ++ [')']) ++ after)
        = read ('(' :: (lead ++ inside ++ trail) ++ [')']) := read_spaced preceding following
      _ = read (lead ++ inside ++ trail) := read_group spaced
      _ = read inside := read_spaced leading trailing

theorem read_enclosed_twice :
    (unwrap? "((a) OR (b))".toList).isSome = true ∧ (unwrap? "(a) OR (b)".toList).isSome = false ∧
    Balanced "(a) OR (b)".toList ∧ read "\n(\t(a) OR (b)\u3000 ) ".toList = read "(a) OR (b)".toList ∧
    Balanced "(a) OR".toList ∧ read "( (a) OR)".toList = .error (.missingOperand "(a) OR".toList) := by
  have group : Balanced "(a) OR (b)".toList := by decide
  have partly : Balanced "(a) OR".toList := by decide
  refine ⟨(read_enclosed.1 _).mpr ⟨_, rfl, group⟩, by decide, group, ?_, partly, ?_⟩
  · exact read_enclosed.2 "(a) OR (b)".toList ['\t'] ['\u3000', ' '] ['\n'] [' '] group
      (by decide) (by decide) (by decide) (by decide)
  · have inner : read "(a) OR".toList = .error (.missingOperand "(a) OR".toList) := by decide +kernel
    rw [← inner]
    exact read_enclosed.2 "(a) OR".toList [' '] [] [] [] partly (by decide) (by decide) (by decide) (by decide)

-- A text with a whole connective behind a left part that has none of its own: the left part is read,
-- and what follows the connective as a whole. A blank operand is found before anything is read.
theorem read_whole (balanced : Balanced left) (single : ¬HasConnective left) (whole : Whole text left op.word right) :
    read text =
      if allBlank left || allBlank right then .error (.missingOperand (trim text))
      else do return .node op (← read left) (← read right) := by
  have front : Balanced (trimLeft left) := balanced_trimLeft.mpr balanced
  have ends : endsWord (trimLeft left) = false := endsWord_trimLeft whole.opens
  have opens : opensWord (trimRight right) = false := opensWord_trimRight whole.closes
  have alone : ¬HasConnective (trimLeft left) := by
    intro has
    obtain ⟨lead, blank, parts⟩ := trimLeft_parts left
    have wider : HasConnective (lead ++ trimLeft left ++ []) := has.extend blank (by rfl)
    rw [List.append_nil, ← parts] at wider
    exact single wider
  have cut : split? (trimLeft left ++ (op.word ++ trimRight right)) = some (trimLeft left, op, trimRight right) :=
    split?_join alone front.settled.symm ends opens
  have loose : ¬IsGroup (trimLeft left ++ (op.word ++ trimRight right)) := by
    by_cases empty : trimLeft left = []
    · rw [empty]
      rintro ⟨inside, parts, _⟩
      cases op <;> cases parts
    · exact not_isGroup_append front empty (by simp [op.word_lettered.filled])
  have reading := readTrimmed_split (unwrap?_eq_none.mpr loose) cut
  rw [whole.parts, List.append_assoc, read, trim_join, reading]
  simp only [← trim_isEmpty, read, trim_trimLeft, trim_trimRight]

def IsGap (gap : List Char) : Prop := gap ≠ [] ∧ allBlank gap = true

instance (gap : List Char) : Decidable (IsGap gap) := inferInstanceAs (Decidable (_ ∧ _))

theorem read_join (balanced : Balanced left) (single : ¬HasConnective left) (before : IsGap gap)
    (after : IsGap space) (op : Connective) (right : List Char) :
    read (left ++ gap ++ (op.word ++ (space ++ right))) =
      if allBlank left || allBlank right then
        .error (.missingOperand (trim (left ++ gap ++ (op.word ++ (space ++ right)))))
      else do return .node op (← read left) (← read right) := by
  have whole : Whole (left ++ gap ++ (op.word ++ (space ++ right))) (left ++ gap) op.word (space ++ right) := by
    refine ⟨by rw [List.append_assoc (left ++ gap)], ?_, ?_⟩
    · rw [endsWord_append before.1, endsWord_blank before.2]
    · rw [opensWord_append after.1, opensWord_blank after.2]
  have front : Balanced (left ++ gap) := balanced.append (.plain (noParens_blank before.2))
  have alone : ¬HasConnective (left ++ gap) := fun has => single (hasConnective_append_blank before.2 has)
  have sameLeft : read (left ++ gap) = read left := read_spaced (show allBlank [] = true by rfl) before.2
  have sameRight : read (space ++ right) = read right := by
    rw [← List.append_nil (space ++ right)]
    exact read_spaced after.2 (by rfl)
  rw [read_whole front alone whole, allBlank_append, allBlank_append, before.2, after.2, Bool.and_true, Bool.true_and,
    sameLeft, sameRight]

end Triage.Expr
