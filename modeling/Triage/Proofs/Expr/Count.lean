import Triage.Proofs.Expr.Reading

namespace Triage.Expr
open Triage.Text

-- The number of connectives that stand whole in a text, at whatever depth. `inside` says whether a
-- word character comes right before the text.
def countFrom (inside : Bool) : List Char → Nat
  | [] => 0
  | c :: text => (if (connective? inside (c :: text)).isSome then 1 else 0) + countFrom (isWord c) text

def connectivesIn (text : List Char) : Nat := countFrom false text

def buried : Expr → Nat
  | .leaf condition => connectivesIn condition.statement.display
  | .node _ left right => left.buried + right.buried
  | .foreign _ => 0

theorem connective?_isSome : (connective? inside text).isSome = true ↔
    inside = false ∧ ∃ op : Connective, ∃ rest, Whole text [] op.word rest := by
  rw [Option.isSome_iff_exists]
  constructor
  · intro found
    obtain ⟨⟨op, rest⟩, found⟩ := found
    obtain ⟨apart, parts, closes⟩ := connective?_eq_some.mp found
    exact ⟨apart, op, rest, parts, rfl, closes⟩
  · intro found
    obtain ⟨apart, op, rest, whole⟩ := found
    exact ⟨(op, rest), connective?_eq_some.mpr ⟨apart, whole.parts, whole.closes⟩⟩

theorem connective?_break (opens : opensWord text = false) : connective? inside text = none := by
  cases found : connective? inside text with
  | none => rfl
  | some result =>
      obtain ⟨op, rest⟩ := result
      have starts : opensWord (op.word ++ rest) = true := opensWord_word op.word_lettered
      rw [← (connective?_eq_some.mp found).2.1, opens] at starts
      cases starts

theorem countFrom_break (opens : opensWord text = false) (inside : Bool) :
    countFrom inside text = connectivesIn text := by
  cases text with
  | nil => rfl
  | cons c text => simp only [connectivesIn, countFrom, connective?_break opens]

theorem countFrom_append (seam : front.foldl (fun _ c => isWord c) inside = false ∨ opensWord back = false) :
    countFrom inside (front ++ back) = countFrom inside front + connectivesIn back := by
  induction front generalizing inside with
  | nil =>
      rw [List.nil_append, countFrom, Nat.zero_add]
      rcases seam with apart | opens
      · rw [List.foldl_nil] at apart
        rw [apart, connectivesIn]
      · exact countFrom_break opens inside
  | cons c front ih =>
      have ends : endsWord (c :: front) = false ∨ opensWord back = false := by
        rw [← foldl_isWord]
        exact seam
      have here : (connective? inside (c :: (front ++ back))).isSome = (connective? inside (c :: front)).isSome := by
        rw [Bool.eq_iff_iff, connective?_isSome, connective?_isSome]
        refine and_congr_right fun _ => exists_congr fun op => ?_
        constructor
        · intro found
          obtain ⟨rest, whole⟩ := found
          have inBoth : Whole (c :: front ++ back) [] op.word rest := whole
          have split := inBoth.split op.word_lettered ends
          rcases split with ⟨rest, inFront, _⟩ | ⟨_, _, beyond⟩
          · exact ⟨rest, inFront⟩
          · cases beyond
        · intro found
          obtain ⟨rest, whole⟩ := found
          exact ⟨_, whole.embed op.word_lettered (.inl (show endsWord [] = false by rfl)) ends⟩
      rw [List.cons_append, countFrom, countFrom, here, ih seam, Nat.add_assoc]

theorem connectivesIn_append (seam : endsWord front = false ∨ opensWord back = false) :
    connectivesIn (front ++ back) = connectivesIn front + connectivesIn back := by
  rw [← foldl_isWord] at seam
  exact countFrom_append seam

theorem connectivesIn_whole (whole : Whole text before word after) :
    connectivesIn text = connectivesIn before + connectivesIn word + connectivesIn after := by
  rw [whole.parts, connectivesIn_append (.inr whole.closes), connectivesIn_append (.inl whole.opens)]

theorem countFrom_wordless (none : ∀ c ∈ text, isWord c = false) : countFrom inside text = 0 := by
  induction text generalizing inside with
  | nil => rfl
  | cons c text ih =>
      obtain ⟨here, later⟩ := List.forall_mem_cons.mp none
      have missing : connective? inside (c :: text) = Option.none := connective?_break here
      rw [countFrom, missing, ih later]
      rfl

theorem countFrom_none (missed : ∀ front c back, text = front ++ c :: back →
    connective? (front.foldl (fun _ c => isWord c) inside) (c :: back) = none) : countFrom inside text = 0 := by
  induction text generalizing inside with
  | nil => rfl
  | cons c text ih =>
      have here : connective? inside (c :: text) = none := missed [] c text rfl
      have later : countFrom (isWord c) text = 0 := by
        apply ih
        intro front d back parts
        exact missed (c :: front) d back (by rw [parts, List.cons_append])
      rw [countFrom, here, later]
      rfl

theorem connectivesIn_single (plain : noParens text = true) (single : ¬HasConnective text) :
    connectivesIn text = 0 := by
  apply countFrom_none
  intro front c back parts
  cases found : connective? (front.foldl (fun _ c => isWord c) false) (c :: back) with
  | none => rfl
  | some result =>
      obtain ⟨op, rest⟩ := result
      rw [foldl_isWord] at found
      obtain ⟨opens, cut, closes⟩ := connective?_eq_some.mp found
      have whole : Whole text front op.word rest := ⟨by rw [parts, cut, List.append_assoc], opens, closes⟩
      rw [parts, noParens, List.all_append, Bool.and_eq_true] at plain
      have none := count_plain plain.1
      exact absurd ⟨front, op, rest, whole, by rw [none.1, none.2]⟩ single

theorem connectivesIn_blank (blank : allBlank text = true) : connectivesIn text = 0 :=
  countFrom_wordless fun c member => isWord_blank (List.all_eq_true.mp blank c member)

theorem connectivesIn_trim (text : List Char) : connectivesIn (trim text) = connectivesIn text := by
  obtain ⟨lead, trail, leading, trailing, parts⟩ := trim_parts text
  have whole : connectivesIn (lead ++ trim text ++ trail) = connectivesIn (lead ++ trim text) + connectivesIn trail :=
    connectivesIn_append (.inr (opensWord_blank trailing))
  have front : connectivesIn (lead ++ trim text) = connectivesIn lead + connectivesIn (trim text) :=
    connectivesIn_append (.inl (endsWord_blank leading))
  rw [← parts] at whole
  rw [whole, front, connectivesIn_blank leading, connectivesIn_blank trailing, Nat.zero_add, Nat.add_zero]

theorem connectivesIn_group (inside : List Char) : connectivesIn ('(' :: inside ++ [')']) = connectivesIn inside := by
  have whole : Whole ('(' :: inside ++ [')']) ['('] inside [')'] := ⟨rfl, by decide, by decide⟩
  have opening : connectivesIn ['('] = 0 := by decide
  have closing : connectivesIn [')'] = 0 := by decide
  rw [connectivesIn_whole whole, opening, closing, Nat.zero_add, Nat.add_zero]

theorem connectivesIn_word (op : Connective) : connectivesIn op.word = 1 := by cases op <;> decide

theorem countFrom_inside (letters : text.all isWord = true) : countFrom true text = 0 := by
  induction text with
  | nil => rfl
  | cons c text ih =>
      rw [List.all_cons, Bool.and_eq_true] at letters
      have missing : connective? true (c :: text) = none := rfl
      rw [countFrom, missing, letters.1, ih letters.2]
      rfl

theorem connectivesIn_not (isNot : IsNot word) : connectivesIn word = 0 := by
  have letters := isNot.lettered.letters
  obtain ⟨n, o, t, rfl, first, _⟩ := isNot_iff.mp isNot
  have missing : connective? false [n, o, t] = none := by
    cases found : connective? false [n, o, t] with
    | none => rfl
    | some result =>
        obtain ⟨op, rest⟩ := result
        have heads := congrArg List.head? (connective?_eq_some.mp found).2.1
        cases op with
        | and =>
            obtain rfl : n = 'A' := Option.some.inj heads
            cases first
        | or =>
            obtain rfl : n = 'O' := Option.some.inj heads
            cases first
  rw [List.all_cons, Bool.and_eq_true] at letters
  rw [connectivesIn, countFrom, missing, letters.1, countFrom_inside letters.2]
  rfl

-- Whatever is read, every connective of the text is accounted for.
theorem readTrimmed_connectives (accepted : readTrimmed text = .ok e) :
    connectivesIn text = e.connectives + e.buried := by
  have denotes := readTrimmed_denotes accepted
  clear accepted
  induction denotes with
  | group wrapped _ ih =>
      rw [unwrap?_parts wrapped, connectivesIn_group, ← connectivesIn_trim]
      exact ih
  | join _ cut _ _ first second =>
      rw [connectivesIn_trim] at first second
      rw [connectivesIn_whole (split?_parts cut).1, connectivesIn_word, first, second, connectives, buried]
      omega
  | leaf _ _ found =>
      rw [connectives, buried, Nat.zero_add]
      cases readCondition_reads found with
      | bare _ _ => rw [Datum.display_ofChars, connectivesIn_trim]
      | negated whole isNot _ =>
          rw [Datum.display_ofChars, connectivesIn_trim, connectivesIn_append (.inl whole.opens),
            connectivesIn_whole whole, connectivesIn_not isNot, Nat.add_zero]

end Triage.Expr
