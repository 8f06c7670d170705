import Triage.Proofs.Expr.Chain
import Triage.Proofs.Expr.Count
import Triage.Proofs.Expr.RoundTrip

namespace Triage.Expr
open Triage.Text

-- Every connective of a name stands inside a pair of parentheses of the name.
def Sheltered (name : List Char) : Prop := ∀ before (op : Connective) after, Whole name before op.word after →
  before.count ')' < before.count '(' ∧ after.count '(' < after.count ')'

theorem Legible.sheltered (legible : Legible name negated) : Sheltered name := by
  intro before op after whole
  have bound := legible.balanced.sane before (op.word ++ after) (by rw [whole.parts, List.append_assoc])
  have apart : before.count '(' ≠ before.count ')' := fun level => legible.single ⟨before, op, after, whole, level⟩
  have total := legible.balanced.settled
  have none := count_plain op.word_plain
  rw [whole.parts] at total
  simp only [List.count_append, none.1, none.2] at total
  omega

def Plain (e : Expr) : Prop := EveryLeaf (fun name _ => noParens name = true) e

-- The grammar of conditions. A condition is a name, which may have a NOT in it; a NOT alone is none.
inductive Grammatical : List Char → Prop where
  | spaced (leading : allBlank lead = true) (trailing : allBlank trail = true) (inner : Grammatical text) :
      Grammatical (lead ++ text ++ trail)
  | condition (filled : text ≠ []) (trimmed : trim text = text) (plain : noParens text = true)
      (single : ¬HasConnective text) (named : ¬IsNot text) : Grammatical text
  | group (inner : Grammatical inside) : Grammatical ('(' :: inside ++ [')'])
  | join (left : Grammatical front) (right : Grammatical back) (whole : Whole text front (Connective.word op) back) :
      Grammatical text

theorem plain_node : Plain (.node op left right) ↔ Plain left ∧ Plain right := by
  constructor
  · intro plain
    cases plain with
    | node first second => exact ⟨first, second⟩
  · intro plain
    exact .node plain.1 plain.2

theorem plain_leaf : Plain (.leaf ⟨Datum.ofChars name, negated⟩) ↔ noParens name = true := by
  constructor
  · intro plain
    generalize same : Datum.ofChars name = statement at plain
    cases plain with
    | leaf here =>
        have letters := congrArg Datum.display same
        rw [Datum.display_ofChars, Datum.display_ofChars] at letters
        rw [letters]
        exact here
  · intro plain
    exact .leaf plain

theorem noParens_append : noParens (front ++ back) = true ↔ noParens front = true ∧ noParens back = true := by
  simp [noParens]

theorem noParens_trim : noParens (trim text) = true ↔ noParens text = true := by
  obtain ⟨lead, trail, leading, trailing, parts⟩ := trim_parts text
  have whole : noParens text = noParens (lead ++ trim text ++ trail) := congrArg noParens parts
  rw [whole, noParens_append, noParens_append]
  simp [noParens_blank leading, noParens_blank trailing]

theorem IsNot.only (isNot : IsNot text) (whole : Whole text before word after) (inner : IsNot word) :
    before = [] ∧ after = [] := by
  obtain ⟨_, _, _, rfl, _⟩ := isNot_iff.mp isNot
  obtain ⟨_, _, _, rfl, _⟩ := isNot_iff.mp inner
  have sizes := congrArg List.length whole.parts
  simp only [List.length_append, List.length_cons, List.length_nil] at sizes
  exact ⟨List.length_eq_zero_iff.mp (by omega), List.length_eq_zero_iff.mp (by omega)⟩

theorem IsNot.whole (isNot : IsNot text) : HasNot text :=
  ⟨[], text, [], ⟨by simp, rfl, rfl⟩, isNot⟩

theorem IsNot.trim (isNot : IsNot text) : trim text = text := by
  obtain ⟨n, o, t, rfl, _⟩ := isNot_iff.mp isNot
  exact trim_enclosed (isNot.lettered.solid (by simp)) (isNot.lettered.solid (by simp)) [o]

theorem readCondition_plain (filled : text ≠ []) (trimmed : trim text = text) (plain : noParens text = true)
    (named : ¬IsNot text) : ∃ name negated, readCondition text = .ok ⟨Datum.ofChars name, negated⟩ ∧
      noParens name = true := by
  by_cases has : HasNot text
  · cases cut : withoutNot? false text with
    | none => exact absurd has (withoutNot?_eq_none.mp cut)
    | some rest =>
        obtain ⟨before, word, after, whole, isNot, rfl⟩ := withoutNot?_parts cut
        have some : trim (before ++ after) ≠ [] := by
          intro empty
          have blank := trim_eq_nil.mp empty
          rw [allBlank_append, Bool.and_eq_true] at blank
          apply named
          rw [← trimmed, whole.parts, trim_append_right blank.2, trim_append_left blank.1, isNot.trim]
          exact isNot
        have parts : noParens (trim (before ++ after)) = true := by
          rw [whole.parts, noParens_append, noParens_append] at plain
          rw [noParens_trim, noParens_append]
          exact ⟨plain.1.1, plain.2⟩
        exact ⟨_, true, by simp [readCondition, cut, some], parts⟩
  · exact ⟨text, false, readCondition_bare has trimmed filled, plain⟩

theorem Grammatical.balanced (grammatical : Grammatical text) : Balanced text := by
  induction grammatical with
  | spaced leading trailing _ ih =>
      exact ((Balanced.plain (noParens_blank leading)).append ih).append (.plain (noParens_blank trailing))
  | condition _ _ plain _ _ => exact .plain plain
  | group _ ih => exact ih.enclose
  | @join front back text op _ _ whole left right =>
      rw [whole.parts]
      exact (left.append (.plain op.word_plain)).append right

theorem read_joined (balanced : Balanced front) (first : ∃ e, read front = .ok e ∧ Plain e)
    (second : ∃ e, read back = .ok e ∧ Plain e) (whole : Whole text front (Connective.word op) back) :
    ∃ e, read text = .ok e ∧ Plain e := by
  induction length : front.length using Nat.strong_induction_on generalizing front text with
  | _ size ih =>
    obtain ⟨l, leftRead, leftPlain⟩ := first
    obtain ⟨r, rightRead, rightPlain⟩ := second
    cases cut : split? front with
    | none =>
        have reading := read_whole balanced (split?_eq_none.mp cut) whole
        rw [solid_of_read leftRead, solid_of_read rightRead, leftRead, rightRead] at reading
        exact ⟨.node op l r, reading, .node leftPlain rightPlain⟩
    | some parts =>
        obtain ⟨start, earlier, middle⟩ := parts
        obtain ⟨inner, level⟩ := split?_parts cut
        have single := split?_single cut
        rw [inner.parts, Balanced.insert earlier.word_plain] at balanced
        obtain ⟨startBalanced, middleBalanced⟩ := balanced.split level
        have reading := read_whole startBalanced single inner
        rw [leftRead] at reading
        split at reading
        · cases reading
        obtain ⟨a, startRead, reading⟩ := bind_eq_ok.mp reading.symm
        obtain ⟨b, middleRead, reading⟩ := bind_eq_ok.mp reading
        cases reading
        obtain ⟨startPlain, middlePlain⟩ := plain_node.mp leftPlain
        have filled : middle ≠ [] := by
          rintro rfl
          cases solid_of_read middleRead
        have rest : Whole (middle ++ op.word ++ back) middle op.word back := by
          refine ⟨rfl, ?_, whole.closes⟩
          rw [← endsWord_append filled, ← inner.parts]
          exact whole.opens
        have shorter : middle.length < size := by
          have sizes := congrArg List.length inner.parts
          have letters := List.length_pos_iff.mpr earlier.word_lettered.filled
          simp only [List.length_append] at sizes
          omega
        obtain ⟨tail, tailRead, tailPlain⟩ :=
          ih middle.length shorter middleBalanced ⟨b, middleRead, middlePlain⟩ rest rfl
        have outer : Whole text start earlier.word (middle ++ op.word ++ back) := by
          refine ⟨?_, inner.opens, ?_⟩
          · rw [whole.parts, inner.parts]
            simp only [List.append_assoc]
          · rw [List.append_assoc, opensWord_append filled]
            exact inner.closes
        have whole := read_whole startBalanced single outer
        rw [solid_of_read startRead, solid_of_read tailRead, startRead, tailRead] at whole
        exact ⟨.node earlier a tail, whole, plain_node.mpr ⟨startPlain, tailPlain⟩⟩

theorem Grammatical.read (grammatical : Grammatical text) : ∃ e, read text = .ok e ∧ Plain e := by
  induction grammatical with
  | spaced leading trailing _ ih =>
      rw [read_spaced leading trailing]
      exact ih
  | @condition text filled trimmed plain single named =>
      obtain ⟨name, negated, found, nameless⟩ := readCondition_plain filled trimmed plain named
      have loose : ¬IsGroup text := by
        rintro ⟨inside, rfl, _⟩
        simp [noParens] at plain
      refine ⟨.leaf ⟨Datum.ofChars name, negated⟩, ?_, .leaf nameless⟩
      rw [read_leaf (by rwa [trimmed]) (by rwa [trimmed]), trimmed, found]
      rfl
  | group inner ih =>
      rw [read_group inner.balanced]
      exact ih
  | join left _ whole first second => exact read_joined left.balanced first second whole

theorem Grammatical.of_trim (inner : Grammatical (trim text)) : Grammatical text := by
  obtain ⟨lead, trail, leading, trailing, parts⟩ := trim_parts text
  rw [parts]
  exact .spaced leading trailing inner

theorem readTrimmed_grammatical (trimmed : trim text = text) (balanced : Balanced text)
    (accepted : readTrimmed text = .ok e) (plain : Plain e) : Grammatical text := by
  have denotes := readTrimmed_denotes accepted
  clear accepted
  induction denotes with
  | @group text inside e wrapped _ ih =>
      obtain ⟨rfl, inner⟩ := unwrap?_eq_some.mp wrapped
      exact .group (.of_trim (ih (trim_trim inside) (balanced_trim.mpr inner) plain))
  | @join text left op right l r loose cut _ _ ihLeft ihRight =>
      obtain ⟨leftPlain, rightPlain⟩ := plain_node.mp plain
      obtain ⟨whole, level⟩ := split?_parts cut
      rw [whole.parts, Balanced.insert op.word_plain] at balanced
      obtain ⟨first, second⟩ := balanced.split level
      have front := ihLeft (trim_trim left) (balanced_trim.mpr first) leftPlain
      have back := ihRight (trim_trim right) (balanced_trim.mpr second) rightPlain
      exact .join (.of_trim front) (.of_trim back) whole
  | @leaf text condition loose uncut found =>
      have single := split?_eq_none.mp uncut
      cases readCondition_reads found with
      | bare bare filled =>
          rw [trimmed] at filled plain
          exact .condition filled trimmed (plain_leaf.mp plain) single fun isNot => bare isNot.whole
      | @negated before word after whole isNot filled =>
          have parts : noParens text = true := by
            have inner := plain_leaf.mp plain
            rw [noParens_trim, noParens_append] at inner
            rw [whole.parts, noParens_append, noParens_append]
            exact ⟨⟨inner.1, isNot.plain⟩, inner.2⟩
          have some : text ≠ [] := by
            rintro rfl
            have letters := isNot.lettered.filled
            have empty := whole.parts
            simp at empty
            exact letters empty.2.1
          refine .condition some trimmed parts single fun alone => ?_
          obtain ⟨rfl, rfl⟩ := alone.only whole isNot
          exact filled rfl

theorem buried_plain (legible : EveryLeaf Legible e) (plain : Plain e) : e.buried = 0 := by
  induction legible with
  | leaf here =>
      rw [buried, Datum.display_ofChars]
      exact connectivesIn_single (plain_leaf.mp plain) here.single
  | node _ _ left right =>
      obtain ⟨first, second⟩ := plain_node.mp plain
      rw [buried, left first, right second]

theorem legible_group (balanced : Balanced inside) : Legible ('(' :: inside ++ [')']) true where
  filled := by simp
  trimmed := trim_enclosed (by rfl) (by rfl) inside
  balanced := balanced.enclose
  single := not_hasConnective_group balanced
  bare := by simp

-- Every connective of a balanced text that is read becomes a node of the tree or stays in one name,
-- there inside parentheses of that name. No name has a parenthesis exactly when the text is of the
-- grammar, all of which can be read, and then every connective is a node. Other texts are not rejected
-- for it: behind a NOT a group is the name, with all that is in it.
theorem read_connectives :
    (∀ text e, Balanced text → read text = .ok e →
      connectivesIn text = e.connectives + e.buried ∧ EveryLeaf (fun name _ => Sheltered name) e ∧
      (Plain e ↔ Grammatical text) ∧ (Plain e → connectivesIn text = e.connectives)) ∧
    (∀ text, Grammatical text → Balanced text ∧ ∃ e, read text = .ok e ∧ Plain e) ∧
    ∀ inside, Balanced inside →
      read ("NOT (".toList ++ inside ++ [')']) = .ok (.leaf ⟨Datum.ofChars ('(' :: inside ++ [')']), true⟩) := by
  refine ⟨?_, ?_, ?_⟩
  · intro text e balanced accepted
    have legible := read_legible balanced accepted
    have total : connectivesIn text = e.connectives + e.buried := by
      rw [← connectivesIn_trim]
      exact readTrimmed_connectives accepted
    have sheltered := legible.imp fun name negated here => here.sheltered
    refine ⟨total, sheltered, ⟨fun plain => ?_, fun grammatical => ?_⟩, fun plain => ?_⟩
    · exact .of_trim (readTrimmed_grammatical (trim_trim text) (balanced_trim.mpr balanced) accepted plain)
    · obtain ⟨other, again, plain⟩ := grammatical.read
      rw [accepted] at again
      cases again
      exact plain
    · rw [total, buried_plain legible plain, Nat.add_zero]
  · intro text grammatical
    exact ⟨grammatical.balanced, grammatical.read⟩
  · intro inside balanced
    exact read_negated (legible_group balanced)

def layered : List Char := "NOT (a AND b) OR (f(x OR y) AND c)".toList

theorem read_connectives_layered : Balanced layered ∧
    ∃ e, read layered = .ok e ∧ connectivesIn layered = 4 ∧ e.connectives = 2 ∧ e.buried = 2 ∧
      ¬Grammatical layered ∧ Grammatical "a and b AND (c OR NOT d)".toList := by
  have balanced : Balanced layered := by decide
  have accepted : read layered = .ok (.node .or (.leaf ⟨Datum.ofChars "(a AND b)".toList, true⟩)
      (.node .and (.leaf ⟨Datum.ofChars "f(x OR y)".toList, false⟩) (.leaf ⟨Datum.ofChars "c".toList, false⟩))) := by
    decide +kernel
  obtain ⟨total, _, grammar, _⟩ := read_connectives.1 _ _ balanced accepted
  have whole : connectivesIn layered = 4 := by decide
  have nodes : Expr.connectives (.node .or (.leaf ⟨Datum.ofChars "(a AND b)".toList, true⟩)
      (.node .and (.leaf ⟨Datum.ofChars "f(x OR y)".toList, false⟩)
        (.leaf ⟨Datum.ofChars "c".toList, false⟩))) = 2 := by rfl
  have outside : ¬Grammatical layered := by
    intro grammatical
    obtain ⟨first, _⟩ := plain_node.mp (grammar.mpr grammatical)
    exact absurd (plain_leaf.mp first) (by decide)
  have plain : Balanced "a and b AND (c OR NOT d)".toList ∧ read "a and b AND (c OR NOT d)".toList =
      .ok (.node .and (.leaf ⟨Datum.ofChars "a and b".toList, false⟩)
        (.node .or (.leaf ⟨Datum.ofChars "c".toList, false⟩) (.leaf ⟨Datum.ofChars "d".toList, true⟩))) :=
    ⟨by decide, by decide +kernel⟩
  have inside := (read_connectives.1 _ _ plain.1 plain.2).2.2.1
  rw [whole, nodes] at total
  refine ⟨balanced, _, accepted, whole, nodes, by omega, outside, inside.mp ?_⟩
  exact .node (.leaf (by decide)) (.node (.leaf (by decide)) (.leaf (by decide)))

-- A connective may be lost to a name, and so may parentheses.
theorem not_read_plain :
    ¬∀ text e, Balanced text → read text = .ok e → connectivesIn text = e.connectives ∧ Plain e := by
  intro all
  have accepted : read "NOT (a AND b)".toList = .ok (.leaf ⟨Datum.ofChars "(a AND b)".toList, true⟩) := by
    decide +kernel
  obtain ⟨same, _⟩ := all _ _ (by decide) accepted
  exact absurd same (by decide)

end Triage.Expr
