import Triage.Proofs.Expr.Reading

namespace Triage.Expr
open Triage.Text

-- A text that can stand as an operand: it keeps its place between blanks, and nothing splits it.
structure Operand (text : List Char) : Prop where
  filled : text ≠ []
  trimmed : trim text = text
  balanced : Balanced text
  single : ¬HasConnective text

theorem Operand.solid (operand : Operand text) : allBlank text = false := by
  cases blank : allBlank text with
  | false => rfl
  | true => exact absurd (operand.trimmed.symm.trans (trim_blank blank)) operand.filled

theorem operand_negated (legible : Legible name negated) : Operand ("NOT ".toList ++ name) := by
  obtain ⟨last, front, parts⟩ : ∃ last front, name = front ++ [last] := by
    rcases List.eq_nil_or_concat name with empty | ⟨front, last, parts⟩
    · exact absurd empty legible.filled
    · exact ⟨last, front, by simpa using parts⟩
  have solid : isBlank last = false := trimmed_last (by rw [← parts]; exact legible.trimmed)
  refine ⟨by simp, ?_, (Balanced.plain (by decide)).append legible.balanced, ?_⟩
  · rw [parts]
    exact trim_enclosed (by rfl) solid ("OT ".toList ++ front)
  · intro has
    rcases hasConnective_append (by decide) (Or.inl (by decide)) has with front | name
    · exact absurd front (by decide)
    · exact legible.single name

theorem read_negated (legible : Legible name negated) :
    read ("NOT ".toList ++ name) = .ok (.leaf ⟨Datum.ofChars name, true⟩) := by
  have operand := operand_negated legible
  have loose : ¬IsGroup ("NOT ".toList ++ name) := by
    rintro ⟨inside, parts, _⟩
    cases parts
  rw [read_leaf (by rwa [operand.trimmed]) (by rw [operand.trimmed]; exact operand.single), operand.trimmed,
    readCondition_negated legible.trimmed legible.filled]
  rfl

theorem read_bare (legible : Legible name false) : read name = .ok (.leaf ⟨Datum.ofChars name, false⟩) := by
  obtain ⟨bare, loose⟩ := legible.bare rfl
  rw [read_leaf (by rwa [legible.trimmed]) (by rw [legible.trimmed]; exact legible.single), legible.trimmed,
    readCondition_bare bare legible.trimmed legible.filled]
  rfl

theorem balanced_pair (op : Connective) (left : Operand first) (right : Operand second) :
    Balanced (first ++ ' ' :: op.word ++ ' ' :: second) := by
  have blank : Balanced [' '] := .plain (by rfl)
  have middle := blank.append ((Balanced.plain op.word_plain).append (blank.append right.balanced))
  simpa using left.balanced.append middle

theorem operand_node (op : Connective) (left : Operand first) (right : Operand second) :
    Operand ('(' :: first ++ ' ' :: op.word ++ ' ' :: second ++ [')']) := by
  have inside := balanced_pair op left right
  exact ⟨by simp, trim_enclosed (by rfl) (by rfl) _, inside.enclose, not_hasConnective_group inside⟩

theorem read_node (op : Connective) (left : Operand first) (right : Operand second)
    (leftRead : read first = .ok l) (rightRead : read second = .ok r) :
    read ('(' :: first ++ ' ' :: op.word ++ ' ' :: second ++ [')']) = .ok (.node op l r) := by
  have gap : IsGap [' '] := ⟨by simp, by rfl⟩
  have joined := read_join left.balanced left.single gap gap op second
  rw [left.solid, right.solid, leftRead, rightRead] at joined
  have grouped := read_group (balanced_pair op left right)
  simp only [List.append_assoc, List.cons_append, List.nil_append] at joined grouped ⊢
  exact grouped.trans joined

theorem render_legible (legible : EveryLeaf Legible e) :
    ∃ text, render e = .ok text ∧ Operand text ∧ read text = .ok e := by
  induction legible with
  | @leaf name negated legible =>
      cases negated with
      | false =>
          refine ⟨name, by simp [render, bind, Except.bind, pure, Except.pure], ?_, read_bare legible⟩
          exact ⟨legible.filled, legible.trimmed, legible.balanced, legible.single⟩
      | true =>
          refine ⟨"NOT ".toList ++ name, ?_, operand_negated legible, read_negated legible⟩
          simp [render, bind, Except.bind, pure, Except.pure]
  | @node left right op _ _ ihLeft ihRight =>
      obtain ⟨first, firstWritten, firstOperand, firstRead⟩ := ihLeft
      obtain ⟨second, secondWritten, secondOperand, secondRead⟩ := ihRight
      refine ⟨_, ?_, operand_node op firstOperand secondOperand,
        read_node op firstOperand secondOperand firstRead secondRead⟩
      simp only [render, firstWritten, secondWritten]
      rfl

-- What is read from a balanced text has legible leaves: a group, an operand and what is left of a
-- leaf are balanced again, and a leaf is what no connective splits.
theorem readTrimmed_legible (trimmed : trim text = text) (balanced : Balanced text)
    (accepted : readTrimmed text = .ok e) : EveryLeaf Legible e := by
  refine readTrimmed_every (fun text => trim text = text ∧ Balanced text) ?_ ?_ ?_ ⟨trimmed, balanced⟩ accepted
  · rintro text inside _ wrapped
    obtain ⟨_, inner⟩ := unwrap?_eq_some.mp wrapped
    exact ⟨trim_trim _, balanced_trim.mpr inner⟩
  · rintro text left op right ⟨_, balanced⟩ cut
    obtain ⟨whole, even⟩ := split?_parts cut
    rw [whole.parts, Balanced.insert op.word_plain] at balanced
    obtain ⟨first, second⟩ := balanced.split even
    exact ⟨⟨trim_trim _, balanced_trim.mpr first⟩, ⟨trim_trim _, balanced_trim.mpr second⟩⟩
  · rintro text condition ⟨trimmed, balanced⟩ loose uncut found
    exact readCondition_legible trimmed balanced (split?_eq_none.mp uncut) (unwrap?_eq_none.mp loose) found

theorem read_legible (balanced : Balanced text) (accepted : read text = .ok e) : EveryLeaf Legible e :=
  readTrimmed_legible (trim_trim text) (balanced_trim.mpr balanced) accepted

theorem read_render (legible : EveryLeaf Legible e) : ∃ text, render e = .ok text ∧ read text = .ok e := by
  obtain ⟨text, written, _, again⟩ := render_legible legible
  exact ⟨text, written, again⟩

def leaning : Expr :=
  .node .or
    (.node .and (.leaf ⟨Datum.ofChars "f(x AND y)".toList, false⟩) (.leaf ⟨Datum.ofChars "(a OR b)".toList, true⟩))
    (.leaf ⟨Datum.ofChars "not c".toList, true⟩)

theorem read_render_leaning : EveryLeaf Legible leaning ∧
    ∃ text, render leaning = .ok text ∧ read text = .ok leaning := by
  have legible : EveryLeaf Legible leaning :=
    .node (.node (.leaf (by decide)) (.leaf (by decide))) (.leaf (by decide))
  exact ⟨legible, read_render legible⟩

-- Reading settles: what was read from a balanced text is read again from its own notation.
theorem render_stable (balanced : Balanced text) (accepted : read text = .ok e) :
    ∃ again, render e = .ok again ∧ read again = .ok e := by
  obtain ⟨again, written, _, reread⟩ := render_legible (read_legible balanced accepted)
  exact ⟨again, written, reread⟩

theorem render_stable_loose :
    ∃ again, render (.node .or (.leaf ⟨Datum.ofChars "b  (x AND y)".toList, true⟩)
        (.leaf ⟨Datum.ofChars "c".toList, false⟩)) = .ok again ∧
      read again = .ok (.node .or (.leaf ⟨Datum.ofChars "b  (x AND y)".toList, true⟩)
        (.leaf ⟨Datum.ofChars "c".toList, false⟩)) := by
  have balanced : Balanced "b NOT (x AND y) OR  ( c )".toList := by decide
  exact render_stable balanced (by decide +kernel)

end Triage.Expr
