import Triage.Proofs.Yaml.Gap

namespace Triage.Yaml
open Triage.Text

def afterRun (indent : Nat) (run : List Char) (cells : List Cell) : List Char × Bool × List Cell :=
  let gap := takePlainGap cells
  if gap.text.isEmpty || peek gap.rest = '#' || columnOf gap.rest < indent then (run, gap.broken, gap.rest)
  else
    match takePlain false indent gap.rest with
    | ([], _, _) => (run, gap.broken, gap.rest)
    | (text, broken, rest) => (run ++ gap.text ++ text, broken, rest)

def takeOn (indent : Nat) (cells : List Cell) : List Char × Bool × List Cell :=
  afterRun indent (takeRun false cells).1 (takeRun false cells).2

theorem takePlain_takeOn (indent : Nat) (noComment : peek cells ≠ '#') (starts : (takeRun false cells).1 ≠ []) :
    takePlain false indent cells = takeOn indent cells := by
  rw [takePlain, dif_neg (by simp [noComment, starts])]
  rfl

theorem takeOn_cons (indent : Nat) (inside : endsPlain false c.char rest = false) :
    takeOn indent (c :: rest) = (c.char :: (takeOn indent rest).1, (takeOn indent rest).2) := by
  have run : takeRun false (c :: rest) = (c.char :: (takeRun false rest).1, (takeRun false rest).2) := by
    rw [takeRun, inside]
    rfl
  rw [takeOn, takeOn, run, afterRun, afterRun]
  split
  · rfl
  · cases takePlain false indent (takePlainGap (takeRun false rest).2).rest with
    | mk text others => cases text <;> rfl

def Solid (text : List Char) : Prop := ∀ c more, text = c :: more → c ≠ ' ' ∧ isBreak c = false

theorem Solid.inLine (solid : Solid text) : isBreak (text.headD endMark) = false := by
  cases text with
  | nil => rfl
  | cons c more => exact (solid c more rfl).2

theorem SpellsAt.afterSpaces (spelled : SpellsAt column cells (List.replicate count ' ' ++ text)) (solid : Solid text) :
    SpellsAt (column + count) (afterSpaces cells) text ∧
      charsOf (cells.takeWhile fun c => c.char = ' ') = List.replicate count ' ' := by
  obtain ⟨first, rest, rfl, blank, onwards⟩ := spelled.spaces
  have spaces : ∀ c ∈ first, decide (c.char = ' ') = true := by
    intro c member
    have inText : c.char ∈ List.replicate count ' ' := by
      rw [← blank]
      exact List.mem_map_of_mem member
    simpa using (List.mem_replicate.mp inText).2
  have stops : rest.dropWhile (fun c => decide (c.char = ' ')) = rest ∧
      rest.takeWhile (fun c => decide (c.char = ' ')) = [] := by
    cases rest with
    | nil => exact ⟨rfl, rfl⟩
    | cons c rest =>
        have other : c.char ≠ ' ' := by
          have first : c.char = text.headD endMark := onwards.spells.peek
          rw [first]
          cases text with
          | nil => decide
          | cons d text => exact (solid d text rfl).1
        simp [other]
  rw [Yaml.afterSpaces, List.dropWhile_append_of_pos spaces, List.takeWhile_append_of_pos spaces, stops.1, stops.2,
    List.append_nil]
  exact ⟨onwards, blank⟩

theorem unmarked_indented (positive : 0 < indent) (spelled : Spells cells (List.replicate indent ' ' ++ text)) :
    isDocumentEdge cells = false := by
  have first : peek cells = ' ' := by
    obtain ⟨count, rfl⟩ := Nat.exists_eq_succ_of_ne_zero (Nat.pos_iff_ne_zero.mp positive)
    exact spelled.peek
  exact isDocumentEdge_other first (by decide) (by decide)

theorem takePlainGap_blanks (spelled : SpellsAt column cells (List.replicate (count + 1) ' ' ++ text))
    (solid : Solid text) :
    ∃ after, takePlainGap cells = ⟨List.replicate (count + 1) ' ', false, after⟩ ∧
      SpellsAt (column + (count + 1)) after text := by
  obtain ⟨onwards, blank⟩ := spelled.afterSpaces solid
  have inLine : isBreak (peek (afterSpaces cells)) = false := by
    rw [onwards.spells.peek]
    exact solid.inLine
  exact ⟨afterSpaces cells, by rw [takePlainGap, inLine, blank]; rfl, onwards⟩

theorem takePlainGap_newLine (spelled : Spells cells (newLine indent ++ text)) (solid : Solid text)
    (unmarked : ∀ cells, Spells cells (List.replicate indent ' ' ++ text) → isDocumentEdge cells = false) :
    ∃ after, takePlainGap cells = ⟨[' '], true, after⟩ ∧ SpellsAt indent after text := by
  obtain ⟨mid, taken, line⟩ := Spells.newLine spelled
  obtain ⟨onwards, _⟩ := line.afterSpaces solid
  rw [Nat.zero_add] at onwards
  have first : peek cells = '\n' := spelled.peek
  have stays : afterSpaces cells = cells := by
    obtain ⟨cell, others, rfl, same, _⟩ := Spells.cons spelled
    simp [afterSpaces, same]
  have inLine : isBreak (peek (afterSpaces mid)) = false := by
    rw [onwards.spells.peek]
    exact solid.inLine
  have breaks : takePlainBreaks mid = (some [], afterSpaces mid) := by
    rw [takePlainBreaks, unmarked mid line.spells, inLine]
    rfl
  refine ⟨afterSpaces mid, ?_, onwards⟩
  rw [takePlainGap, stays, first, taken, breaks]
  rfl

-- A plain text from somewhere inside it on.
structure PlainTail (afterSpace : Bool) (text : List Char) : Prop where
  visible : ∀ c ∈ text, 0x20 ≤ c.toNat ∧ c.toNat ≤ 0x7E
  inner : innerIndicates afterSpace text = false
  closed : endsLoose text = false

theorem endsLoose_tail (closed : endsLoose (c :: text) = false) : endsLoose text = false := by
  cases reversed : text.reverse with
  | nil => rw [List.reverse_eq_nil_iff.mp reversed]; rfl
  | cons d others =>
      rw [endsLoose, List.reverse_cons, reversed] at closed
      rw [endsLoose, reversed]
      exact closed

theorem PlainTail.tail (plain : PlainTail afterSpace (c :: text)) : PlainTail (c == ' ') text :=
  ⟨(List.forall_mem_cons.mp plain.visible).2, (Bool.or_eq_false_iff.mp plain.inner).2, endsLoose_tail plain.closed⟩

theorem PlainTail.spaces (plain : PlainTail afterSpace (' ' :: text)) :
    ∃ count d more, text = List.replicate count ' ' ++ d :: more ∧ d ≠ ' ' ∧ PlainTail true (d :: more) := by
  induction text generalizing afterSpace with
  | nil => cases plain.closed
  | cons c text ih =>
      by_cases space : c = ' '
      · subst space
        obtain ⟨count, d, more, rfl, other, tail⟩ := ih plain.tail
        exact ⟨count + 1, d, more, rfl, other, tail⟩
      · exact ⟨0, c, text, rfl, space, plain.tail⟩

theorem writePlain_solid (folds : Bool) (indent column : Nat) (afterSpace : Bool) (solid : c ≠ ' ') (text : List Char) :
    writePlain folds indent column afterSpace (c :: text) =
      c :: writePlain folds indent (column + 1) false text := by
  have whole : loneSpace afterSpace (c :: text) = false := by
    cases alone : loneSpace afterSpace (c :: text) with
    | false => rfl
    | true => exact absurd (loneSpace_parts alone).1 solid
  have other : (c == ' ') = false := by simpa using solid
  rw [writePlain, whole, Bool.and_false, other]
  rfl

theorem writePlain_spaces (folds : Bool) (indent column count : Nat) (text : List Char) :
    writePlain folds indent column true (List.replicate count ' ' ++ text) =
      List.replicate count ' ' ++ writePlain folds indent (column + count) true text := by
  induction count generalizing column with
  | zero => rfl
  | succ count ih =>
      have together : loneSpace true (' ' :: (List.replicate count ' ' ++ text)) = false := by
        cases List.replicate count ' ' ++ text <;> rfl
      rw [List.replicate_succ, List.cons_append, writePlain, together, Bool.and_false, if_neg (by simp),
        List.cons_append, Nat.add_comm count, ← Nat.add_assoc]
      exact congrArg (List.cons ' ') (ih (column + 1))

theorem writePlain_space (folds : Bool) (indent column : Nat) (afterSpace : Bool) (text : List Char) :
    (∃ d more, text = d :: more ∧ d ≠ ' ' ∧ writePlain folds indent column afterSpace (' ' :: text) =
      newLine indent ++ writePlain folds indent indent false text) ∨
    writePlain folds indent column afterSpace (' ' :: text) = ' ' :: writePlain folds indent (column + 1) true text := by
  rw [writePlain]
  split
  · rename_i fold
    obtain ⟨_, _, d, more, parts, solid⟩ := loneSpace_parts (Bool.and_eq_true_iff.mp fold).2
    exact .inl ⟨d, more, parts, solid, rfl⟩
  · exact .inr rfl

theorem PlainTail.inside (plain : PlainTail afterSpace (c :: text)) (solid : c ≠ ' ')
    (spelled : Spells rest (writePlain folds indent column false text ++ behind)) : endsPlain false c rest = false := by
  have visible := (List.forall_mem_cons.mp plain.visible).1
  have colon : (decide (c = ':') && isBlankCell (peek rest)) = false := by
    by_cases same : c = ':'
    · have inner := (Bool.or_eq_false_iff.mp (Bool.or_eq_false_iff.mp plain.inner).1).1
      cases text with
      | nil => simp [same, spaceOrEnd] at inner
      | cons d text =>
          have other : d ≠ ' ' := by simpa [same, spaceOrEnd] using inner
          rw [writePlain_solid folds indent column false other] at spelled
          rw [spelled.peek, List.cons_append, List.headD_cons,
            isBlankCell_visible (plain.tail.visible d (List.mem_cons_self ..)) other, Bool.and_false]
    · simp [same]
  simpa [endsPlain, isBlankCell_visible visible solid] using colon

structure Follows (least column : Nat) (text : List Char) : Prop where
  outside : column < least
  solid : Solid text
  unmarked : ∀ cells, Spells cells (List.replicate column ' ' ++ text) → isDocumentEdge cells = false

theorem takeOn_end (follows : Follows least column behind) (spelled : Spells cells (newLine column ++ behind)) :
    ∃ after, takeOn least cells = ([], true, after) ∧ SpellsAt column after behind := by
  obtain ⟨after, gap, onwards⟩ := takePlainGap_newLine spelled follows.solid follows.unmarked
  have none : takeRun false cells = ([], cells) := by
    obtain ⟨cell, others, rfl, same, _⟩ := Spells.cons spelled
    rw [takeRun, same]
    rfl
  refine ⟨after, ?_, onwards⟩
  rw [takeOn, none, afterRun, gap]
  simp [onwards.stands, follows.outside]

theorem takePlain_word (plain : PlainTail before (c :: text)) (solid : c ≠ ' ') (noComment : c ≠ '#')
    (spelled : Spells cells (writePlain folds indent start afterSpace (c :: text) ++ behind)) :
    takePlain false least cells = takeOn least cells := by
  rw [writePlain_solid folds indent start afterSpace solid] at spelled
  obtain ⟨cell, rest, rfl, rfl, onwards⟩ := Spells.cons spelled
  refine takePlain_takeOn least noComment ?_
  rw [takeRun, plain.inside solid onwards]
  simp

theorem takeOn_gap (blank : isBlankCell (peek cells) = true) (gap : takePlainGap cells = ⟨blanks, broken, mid⟩)
    (filled : blanks ≠ []) (noComment : peek mid ≠ '#') (deep : least ≤ columnOf mid)
    (later : takePlain false least mid = (c :: text, true, after)) :
    takeOn least cells = (blanks ++ c :: text, true, after) := by
  have none : takeRun false cells = ([], cells) := by
    cases cells with
    | nil => rfl
    | cons cell rest =>
        have ends : isBlankCell cell.char = true := blank
        simp [takeRun, endsPlain, ends]
  rw [takeOn, none, afterRun, gap]
  simp [filled, noComment, deep, later]

-- A plain text is read as it was, from every place inside it on.
theorem takeOn_writePlain (follows : Follows least column behind) (deep : least ≤ indent) (folds : Bool)
    (text : List Char) (start place : Nat) (before afterSpace : Bool) (plain : PlainTail before text)
    (there : least ≤ place) (spelled : SpellsAt place cells
      (writePlain folds indent start afterSpace text ++ (newLine column ++ behind))) :
    ∃ after, takeOn least cells = (text, true, after) ∧ SpellsAt column after behind := by
  match text with
  | [] => exact takeOn_end follows spelled.spells
  | c :: text =>
      by_cases space : c = ' '
      · subst space
        obtain ⟨count, d, more, parts, solid, tail⟩ := plain.spaces
        have noComment : d ≠ '#' := by
          rintro rfl
          cases tail.inner
        have shorter : (d :: more).length < (' ' :: text).length := by
          simp only [parts, List.length_cons, List.length_append, List.length_replicate]
          omega
        have starts : ∀ start afterSpace, Solid (writePlain folds indent start afterSpace (d :: more) ++
            (newLine column ++ behind)) := by
          intro start afterSpace
          rw [writePlain_solid folds indent start afterSpace solid]
          rintro e others ⟨⟩
          have visible := tail.visible d (List.mem_cons_self ..)
          exact ⟨solid, (Bool.or_eq_false_iff.mp (isBreakOrEnd_visible visible)).2⟩
        -- What is behind the gap is read on from there.
        have onward : ∀ start place mid afterSpace, least ≤ place → SpellsAt place mid
            (writePlain folds indent start afterSpace (d :: more) ++ (newLine column ++ behind)) →
            peek mid ≠ '#' ∧ least ≤ columnOf mid ∧ ∃ after, takePlain false least mid = (d :: more, true, after) ∧
              SpellsAt column after behind := by
          intro start place mid afterSpace there spelled
          obtain ⟨after, taken, last⟩ :=
            takeOn_writePlain follows deep folds (d :: more) start place true afterSpace tail there spelled
          refine ⟨?_, by rwa [spelled.stands], after, ?_, last⟩
          · rw [writePlain_solid folds indent start afterSpace solid] at spelled
            rw [spelled.spells.peek]
            exact noComment
          · rw [takePlain_word tail solid noComment spelled.spells, taken]
        rcases writePlain_space folds indent start afterSpace text with ⟨e, others, single, lone, fold⟩ | literal
        · have whole : text = d :: more := by
            cases count with
            | zero => exact parts
            | succ count =>
                rw [parts] at single
                cases single
                exact absurd rfl lone
          subst whole
          rw [fold, List.append_assoc] at spelled
          have first : peek cells = '\n' := spelled.spells.peek
          obtain ⟨mid, gap, onwards⟩ := takePlainGap_newLine spelled.spells (starts indent false)
            fun cells => unmarked_indented (by have outside := follows.outside; omega)
          obtain ⟨noComment, there, after, taken, last⟩ := onward indent indent mid false deep onwards
          exact ⟨after, takeOn_gap (by rw [first]; rfl) gap (by simp) noComment there taken, last⟩
        · have spaces : SpellsAt place cells (List.replicate (count + 1) ' ' ++
              (writePlain folds indent (start + 1 + count) true (d :: more) ++ (newLine column ++ behind))) := by
            rw [literal, parts, writePlain_spaces, List.cons_append, List.append_assoc] at spelled
            exact spelled
          have first : peek cells = ' ' := spaces.spells.peek
          obtain ⟨mid, gap, onwards⟩ := takePlainGap_blanks spaces (starts _ true)
          obtain ⟨noComment, there, after, taken, last⟩ := onward _ _ mid true (by omega) onwards
          refine ⟨after, ?_, last⟩
          rw [takeOn_gap (by rw [first]; rfl) gap (by simp) noComment there taken, parts]
          rfl
      · rw [writePlain_solid folds indent start afterSpace space] at spelled
        have visible := plain.visible c (List.mem_cons_self ..)
        obtain ⟨cell, rest, rfl, rfl, _, onwards⟩ := spelled.cons (isSteady_visible visible)
        obtain ⟨after, taken, last⟩ :=
          takeOn_writePlain follows deep folds text (start + 1) (place + 1) _ false plain.tail (by omega) onwards
        refine ⟨after, ?_, last⟩
        rw [takeOn_cons least (plain.inside space onwards.spells), taken]
termination_by text.length

structure Bare (text : List Char) : Prop where
  tail : PlainTail false text
  indicates : startIndicates text = false
  starts : ∃ c more, text = c :: more ∧ c ≠ ' '

theorem isPlain_bare (plain : isPlain text = true) : Bare text := by
  simp only [isPlain, Bool.and_eq_true, Bool.not_eq_true', beq_iff_eq, List.any_eq_false, Bool.not_eq_true] at plain
  obtain ⟨⟨⟨⟨⟨⟨⟨resolved, special⟩, inLine⟩, starts⟩, closed⟩, _⟩, indicates⟩, inner⟩ := plain
  have visible : ∀ c ∈ text, 0x20 ≤ c.toNat ∧ c.toNat ≤ 0x7E := by
    intro c member
    have other : c ≠ '\n' := by
      rintro rfl
      rw [List.contains_iff_mem.mpr member] at inLine
      cases inLine
    simpa [isSpecial, other] using special c member
  refine ⟨⟨visible, inner, closed⟩, indicates, ?_⟩
  cases text with
  | nil => exact absurd resolved (by decide)
  | cons c more =>
      refine ⟨c, more, rfl, ?_⟩
      rintro rfl
      cases starts

theorem Bare.noComment (bare : Bare (c :: text)) : c ≠ '#' := by
  rintro rfl
  cases bare.indicates

theorem takePlain_writePlain (bare : Bare text) (follows : Follows least column behind)
    (deep : least ≤ indent) (folds : Bool) (start : Nat) (there : least ≤ place) (spelled : SpellsAt place cells
      (writePlain folds indent start false text ++ (newLine column ++ behind))) :
    ∃ after, takePlain false least cells = (text, true, after) ∧ SpellsAt column after behind := by
  obtain ⟨c, more, rfl, solid⟩ := bare.starts
  rw [takePlain_word bare.tail solid bare.noComment spelled.spells]
  exact takeOn_writePlain follows deep folds (c :: more) start place false false bare.tail there spelled

def isWord (text : List Char) : Bool := !text.isEmpty && text.all fun c => 'a' ≤ c && c ≤ 'z'

theorem letter_bounds (letter : ('a' ≤ c && c ≤ 'z') = true) : 0x61 ≤ c.toNat ∧ c.toNat ≤ 0x7A := by
  simpa [Char.le_def, UInt32.le_iff_toNat_le] using letter

theorem letter_inside (bounds : 0x61 ≤ c.toNat ∧ c.toNat ≤ 0x7A) (rest : List Cell) : endsPlain false c rest = false := by
  have other : ∀ e : Char, e.toNat < 0x61 → c ≠ e := by
    rintro e small rfl
    omega
  simp [endsPlain, isBlankCell_visible (c := c) (by omega) (other ' ' (by decide)), other ':' (by decide)]

theorem takeOn_key (letters : ∀ c ∈ word, ('a' ≤ c && c ≤ 'z') = true) (blank : isBlankCell d = true)
    (least line column index : Nat) (behind : List Char) :
    takeOn least (cellsFrom line column index (word ++ ':' :: d :: behind)) =
      (word, false, cellsFrom line (column + word.length) (index + word.length) (':' :: d :: behind)) := by
  induction word generalizing column index with
  | nil =>
      obtain ⟨rest, parts, onwards⟩ := cellsFrom_cons line column index ':' (d :: behind)
      have next : peek rest = d := onwards.peek
      have none : takeRun false (⟨':', line, column, index⟩ :: rest) = ([], ⟨':', line, column, index⟩ :: rest) := by
        simp [takeRun, endsPlain, next, blank]
      rw [List.nil_append, parts, takeOn, none, afterRun]
      simp [takePlainGap, afterSpaces, peek, isBreak, charsOf, parts]
  | cons c word ih =>
      obtain ⟨letter, letters⟩ := List.forall_mem_cons.mp letters
      have bounds := letter_bounds letter
      have visible : 0x20 ≤ c.toNat ∧ c.toNat ≤ 0x7E := by omega
      rw [List.cons_append, cellsFrom_steady (isSteady_visible visible), takeOn_cons least (letter_inside bounds _),
        ih letters]
      simp [Nat.add_comm, Nat.add_left_comm]

theorem cellsFrom_word (word : isWord text = true) (line column index : Nat) (behind : List Char) :
    ∃ c rest, cellsFrom line column index (text ++ behind) = ⟨c, line, column, index⟩ :: rest ∧
      0x61 ≤ c.toNat ∧ c.toNat ≤ 0x7A := by
  rw [isWord, Bool.and_eq_true, List.all_eq_true] at word
  cases text with
  | nil => cases word.1
  | cons c more =>
      obtain ⟨rest, cells, _⟩ := cellsFrom_cons line column index c (more ++ behind)
      exact ⟨c, rest, cells, letter_bounds (word.2 c (List.mem_cons_self ..))⟩

theorem takePlain_key (word : isWord text = true) (blank : isBlankCell d = true) (least line column index : Nat)
    (behind : List Char) : takePlain false least (cellsFrom line column index (text ++ ':' :: d :: behind)) =
      (text, false, cellsFrom line (column + text.length) (index + text.length) (':' :: d :: behind)) := by
  obtain ⟨c, rest, cells, low, high⟩ := cellsFrom_word word line column index (':' :: d :: behind)
  rw [isWord, Bool.and_eq_true, List.all_eq_true] at word
  rw [← takeOn_key word.2 blank least line column index behind, cells]
  refine takePlain_takeOn least ?_ ?_
  · rintro same
    have small : c = '#' := same
    rw [small] at low
    revert low
    decide
  · rw [takeRun, letter_inside ⟨low, high⟩]
    simp

end Triage.Yaml
