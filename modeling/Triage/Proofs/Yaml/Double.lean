import Triage.Proofs.Text.Digits
import Triage.Proofs.Yaml.Gap

namespace Triage.Yaml
open Triage.Text

theorem takeDouble_passes : PassesGaps takeDouble := by
  intro c rest gap mid blank taken
  have marks : c.char ≠ '"' ∧ c.char ≠ '\\' := by
    constructor <;> (intro same; rw [same] at blank; revert blank; decide)
  rw [takeDouble, if_neg marks.1, if_neg marks.2, dif_pos blank]
  split
  · rename_i found
    rw [taken] at found
    cases found
    cases takeDouble mid <;> rfl
  · rename_i found
    rw [taken] at found
    cases found

theorem takeDouble_close (close : c.char = '"') (rest : List Cell) : takeDouble (c :: rest) = .ok ([], rest) := by
  rw [takeDouble, if_pos close]

theorem takeDouble_escape (mark : c.char = '\\') (escape : takeEscape rest = .ok (plain, mid))
    (later : takeDouble mid = .ok (text, after)) : takeDouble (c :: rest) = .ok (plain ++ text, after) := by
  have other : c.char ≠ '"' := by
    rw [mark]
    decide
  rw [takeDouble, if_neg other, if_pos mark]
  split
  · rename_i found
    rw [escape] at found
    cases found
    rw [later]
  · rename_i found
    rw [escape] at found
    cases found

theorem takeDouble_plain (marks : c.char ≠ '"' ∧ c.char ≠ '\\') (solid : isGap c.char = false)
    (inLine : isBreakOrEnd c.char = false) (later : takeDouble rest = .ok (text, after)) :
    takeDouble (c :: rest) = .ok (c.char :: text, after) := by
  rw [isBreakOrEnd, Bool.or_eq_false_iff, decide_eq_false_iff_not] at inLine
  rw [takeDouble, if_neg marks.1, if_neg marks.2, dif_neg (by simp [solid, inLine.2]), if_neg inLine.1, later]

theorem takeEscape_letter (known : letterEscapes.find? (fun (plain, _) => plain == c) = some (c', letter))
    (spelled : Spells cells (letter :: rest)) :
    ∃ after, takeEscape cells = .ok ([c], after) ∧ Spells after rest := by
  have same := List.find?_some known
  have member := List.mem_of_find?_eq_some known
  have each : ∀ pair ∈ letterEscapes, readEscapes.lookup pair.2 = some pair.1 := by decide
  obtain ⟨cell, after, rfl, rfl, later⟩ := Spells.cons spelled
  have found := each _ member
  simp only [beq_iff_eq] at same found
  subst same
  exact ⟨after, by simp [takeEscape, peek, found], later⟩

theorem codeChar_char (c : Char) : codeChar c.toNat = .ok c := by
  have bound : c.toNat < 0xD800 ∨ 0xDFFF < c.toNat ∧ c.toNat < 0x110000 := c.valid
  have whole : (decide (0xD800 ≤ c.toNat) && decide (c.toNat < 0xE000)) = false := by
    rw [Bool.and_eq_false_iff, decide_eq_false_iff_not, decide_eq_false_iff_not]
    omega
  rw [codeChar, whole, if_neg (by decide), if_pos (by omega), Char.ofNat_toNat]

theorem takeEscape_hex (letter : Char) (unlisted : readEscapes.lookup letter = none)
    (wide : escapeWidth? letter = some width) (positive : 0 < width) (small : c.toNat < 16 ^ width)
    (spelled : Spells cells (letter :: hex .upper width c.toNat ++ rest)) :
    ∃ after, takeEscape cells = .ok ([c], after) ∧ Spells after rest := by
  obtain ⟨cell, others, rfl, rfl, later⟩ := Spells.cons spelled
  obtain ⟨digits, after, rfl, written, spelled⟩ := Spells.append later
  have count : digits.length = width := by
    rw [← hex_length .upper width c.toNat, ← written, charsOf, List.length_map]
  have value := readDigits?_hex .upper positive small
  refine ⟨after, ?_, spelled⟩
  have taken : takeCode width (digits ++ after) = .ok ([c], after) := by
    rw [takeCode, List.take_left' count, List.drop_left' count, if_neg (by omega), written, value]
    simp [codeChar_char, Except.map]
  simpa [takeEscape, peek, unlisted, wide] using taken

theorem takeEscape_escape? (escaped : escape? c = some ('\\' :: body)) (spelled : Spells cells (body ++ rest)) :
    ∃ after, takeEscape cells = .ok ([c], after) ∧ Spells after rest := by
  have bound : c.toNat < 0xD800 ∨ 0xDFFF < c.toNat ∧ c.toNat < 0x110000 := c.valid
  unfold escape? at escaped
  split at escaped
  · cases escaped
  · split at escaped
    · rename_i plain letter found
      cases escaped
      exact takeEscape_letter found spelled
    · split at escaped
      · cases escaped
        exact takeEscape_hex 'x' (by decide) rfl (by decide) (by omega) spelled
      · split at escaped
        · cases escaped
          exact takeEscape_hex 'u' (by decide) rfl (by decide) (by omega) spelled
        · cases escaped
          exact takeEscape_hex 'U' (by decide) rfl (by decide) (by omega) spelled

theorem escape?_mark (escaped : escape? c = some written) : ∃ body, written = '\\' :: body := by
  unfold escape? at escaped
  split at escaped
  · cases escaped
  · split at escaped
    · cases escaped
      exact ⟨_, rfl⟩
    · split at escaped
      · cases escaped
        exact ⟨_, rfl⟩
      · split at escaped
        · cases escaped
          exact ⟨_, rfl⟩
        · cases escaped
          exact ⟨_, rfl⟩

theorem escape?_none (plain : escape? c = none) :
    (0x20 ≤ c.toNat ∧ c.toNat ≤ 0x7E) ∧ c ≠ '"' ∧ c ≠ '\\' := by
  unfold escape? at plain
  split at plain
  · rename_i visible
    simpa [Bool.and_eq_true, and_assoc] using visible
  · split at plain
    · cases plain
    · split at plain
      · cases plain
      · split at plain <;> cases plain

theorem takeEscape_newLine (positive : 0 < indent) (solid : isGap d = false) (inLine : isBreak d = false)
    (spelled : Spells cells (newLine indent ++ d :: rest)) :
    ∃ after, takeEscape cells = .ok ([], after) ∧ Spells after (d :: rest) := by
  obtain ⟨mid, taken, column⟩ := Spells.newLine spelled
  obtain ⟨after, read, later⟩ := takeEmptyLines_newLine positive solid inLine column.spells
  have first : peek cells = '\n' := spelled.peek
  have unlisted : readEscapes.lookup '\n' = none := rfl
  refine ⟨after, ?_, later⟩
  rw [takeEscape, first, unlisted]
  simp [escapeWidth?, isBreak, taken, read]

-- How a character is written between double marks: by its escape, after which the line may end, or as
-- it is, before which the line may end.
inductive DoubleStep (folds : Bool) (indent : Nat) (first : Bool) (c : Char) (text : List Char) : List Char → Prop where
  | escape (escaped : escape? c = some ('\\' :: body)) (column : Nat) :
      DoubleStep folds indent first c text ('\\' :: body ++ writeDouble folds indent column false true text)
  | escapeBreak (escaped : escape? c = some ('\\' :: body)) (inner : first = false) (more : text ≠ []) :
      DoubleStep folds indent first c text ('\\' :: body ++ escapedBreak indent text ++
        writeDouble folds indent (columnAfterBreak indent text) false true text)
  | plain (plain : escape? c = none) (column : Nat) :
      DoubleStep folds indent first c text (c :: writeDouble folds indent column false false text)
  | breakPlain (plain : escape? c = none) (column : Nat) :
      DoubleStep folds indent first c text
        (escapedBreak indent (c :: text) ++ c :: writeDouble folds indent column false false text)

theorem writeDouble_step (folds : Bool) (indent column : Nat) (first afterEscape : Bool) (c : Char) (text : List Char) :
    DoubleStep folds indent first c text (writeDouble folds indent column first afterEscape (c :: text)) := by
  rw [writeDouble]
  cases escaped : escape? c with
  | some written =>
      obtain ⟨body, rfl⟩ := escape?_mark escaped
      by_cases ends : (folds && !first && !text.isEmpty &&
          decide (foldWidth + 1 < column + ('\\' :: body).length)) = true
      · have more : text ≠ [] := by
          rintro rfl
          simp at ends
        have inner : first = false := by
          cases first
          · rfl
          · simp at ends
        simp only [ends, if_true]
        exact .escapeBreak escaped inner more
      · simp only [ends]
        exact .escape escaped _
  | none =>
      by_cases ends : (folds && !first && !text.isEmpty && (c == ' ' || afterEscape) &&
          decide (foldWidth < column)) = true
      · simp only [ends, if_true]
        exact .breakPlain escaped _
      · simp only [ends]
        exact .plain escaped _

theorem goesOn_writeDouble (folds : Bool) (indent column : Nat) (first afterEscape : Bool) (text rest : List Char) :
    GoesOn (writeDouble folds indent column first afterEscape text ++ '"' :: rest) := by
  have mark : ∀ {c} more, isGap c = false → isBreakOrEnd c = false → GoesOn (c :: more) := by
    intro c more solid inLine
    exact goesOn_cons inLine more fun gap => absurd gap (by simp [solid])
  induction text generalizing column first afterEscape with
  | nil => exact mark rest rfl (by decide)
  | cons c text ih =>
      have step := writeDouble_step folds indent column first afterEscape c text
      generalize writeDouble folds indent column first afterEscape (c :: text) = written at step
      cases step with
      | escape | escapeBreak | breakPlain => exact mark _ rfl (by decide)
      | plain plain column =>
          exact goesOn_cons (isBreakOrEnd_visible (escape?_none plain).1) _ fun _ => ih column false false

theorem writeDouble_solid (folds : Bool) (indent column : Nat) (first afterEscape : Bool) (rest : List Char)
    (solid : ∀ more, text ≠ ' ' :: more) :
    ∃ d more, writeDouble folds indent column first afterEscape text ++ '"' :: rest = d :: more ∧
      isGap d = false ∧ isBreak d = false := by
  cases text with
  | nil => exact ⟨'"', rest, rfl, by decide, by decide⟩
  | cons c text =>
      have step := writeDouble_step folds indent column first afterEscape c text
      generalize writeDouble folds indent column first afterEscape (c :: text) = written at step
      cases step with
      | escape | escapeBreak | breakPlain => exact ⟨'\\', _, rfl, by decide, by decide⟩
      | plain plain column =>
          have other : c ≠ ' ' := by
            rintro rfl
            exact solid text rfl
          have visible := (escape?_none plain).1
          exact ⟨c, _, rfl, isGap_visible visible other, (Bool.or_eq_false_iff.mp (isBreakOrEnd_visible visible)).2⟩

def ReadsDouble (folds : Bool) (indent : Nat) (first : Bool) (text : List Char) : Prop :=
  ∀ column afterEscape cells rest,
    Spells cells (writeDouble folds indent column first afterEscape text ++ '"' :: rest) →
      ∃ after, takeDouble cells = .ok (text, after) ∧ Spells after rest

def escapeMeetsSpace : List Char → Bool
  | c :: d :: e :: text => ((escape? c).isSome && d == ' ') || escapeMeetsSpace (d :: e :: text)
  | _ => false

-- In lines that are indented as far as lines may go, a line that ends behind an escape and again before a
-- space would add a backslash.
def breaksWell (indent : Nat) (text : List Char) : Bool := indent < foldWidth || !escapeMeetsSpace text

-- Texts that keep their characters when lines are indented that far. No line ends behind the first character.
def foldsWell (indent : Nat) (text : List Char) : Bool := Style.ofText text != .double || breaksWell indent text.tail

theorem foldsWell_narrow (narrow : indent < foldWidth) (text : List Char) : foldsWell indent text = true := by
  rw [foldsWell, breaksWell, decide_eq_true narrow, Bool.true_or, Bool.or_true]

theorem breaksWell_tail (tame : breaksWell indent (c :: text) = true) : breaksWell indent text = true := by
  match text with
  | [] => simp [breaksWell, escapeMeetsSpace]
  | [d] => simp [breaksWell, escapeMeetsSpace]
  | d :: e :: text =>
      simp only [breaksWell, escapeMeetsSpace, Bool.or_eq_true, decide_eq_true_eq, Bool.not_eq_true',
        Bool.or_eq_false_iff] at tame ⊢
      exact tame.imp_right And.right

theorem breaksWell_space (escaped : (escape? c).isSome = true) (tame : breaksWell indent (c :: ' ' :: text) = true) :
    indent < foldWidth ∨ text = [] := by
  cases text with
  | nil => exact Or.inr rfl
  | cons d text => exact Or.inl (by simpa [breaksWell, escapeMeetsSpace, escaped] using tame)

theorem escapedBreak_solid (indent : Nat) (solid : ∀ more, text ≠ ' ' :: more) :
    escapedBreak indent text = '\\' :: newLine indent := by
  unfold escapedBreak
  split
  · exact absurd rfl (solid _)
  · exact List.append_nil _

theorem takeDouble_break (positive : 0 < indent) (solid : isGap d = false) (inLine : isBreak d = false)
    (spelled : Spells cells ('\\' :: newLine indent ++ d :: more))
    (later : ∀ mid, Spells mid (d :: more) → ∃ after, takeDouble mid = .ok (text, after) ∧ Spells after rest) :
    ∃ after, takeDouble cells = .ok (text, after) ∧ Spells after rest := by
  obtain ⟨mark, others, rfl, same, spelled⟩ := Spells.cons spelled
  obtain ⟨mid, escape, spelled⟩ := takeEscape_newLine positive solid inLine spelled
  obtain ⟨after, taken, spelled⟩ := later mid spelled
  exact ⟨after, takeDouble_escape same escape taken, spelled⟩

theorem takeDouble_space (spelled : Spells cells ('\\' :: ' ' :: more))
    (later : ∀ mid, Spells mid more → ∃ after, takeDouble mid = .ok (text, after) ∧ Spells after rest) :
    ∃ after, takeDouble cells = .ok (' ' :: text, after) ∧ Spells after rest := by
  obtain ⟨mark, others, rfl, same, spelled⟩ := Spells.cons spelled
  obtain ⟨space, others, rfl, blank, spelled⟩ := Spells.cons spelled
  obtain ⟨after, taken, spelled⟩ := later others spelled
  have escape : takeEscape (space :: others) = .ok ([' '], others) := by
    rw [takeEscape, peek, blank]
    rfl
  exact ⟨after, takeDouble_escape same escape taken, spelled⟩

theorem takeDouble_escape? (escaped : escape? c = some ('\\' :: body))
    (spelled : Spells cells ('\\' :: (body ++ more)))
    (later : ∀ mid, Spells mid more → ∃ after, takeDouble mid = .ok (text, after) ∧ Spells after rest) :
    ∃ after, takeDouble cells = .ok (c :: text, after) ∧ Spells after rest := by
  obtain ⟨mark, others, rfl, same, spelled⟩ := Spells.cons spelled
  obtain ⟨mid, escape, spelled⟩ := takeEscape_escape? escaped spelled
  obtain ⟨after, taken, spelled⟩ := later mid spelled
  exact ⟨after, takeDouble_escape same escape taken, spelled⟩

theorem takeDouble_visible (plain : escape? c = none) (solid : c ≠ ' ') (spelled : Spells cells (c :: more))
    (later : ∀ mid, Spells mid more → ∃ after, takeDouble mid = .ok (text, after) ∧ Spells after rest) :
    ∃ after, takeDouble cells = .ok (c :: text, after) ∧ Spells after rest := by
  obtain ⟨visible, marks⟩ := escape?_none plain
  obtain ⟨cell, others, rfl, rfl, onwards⟩ := Spells.cons spelled
  obtain ⟨after, taken, spelled⟩ := later others onwards
  exact ⟨after, takeDouble_plain marks (isGap_visible visible solid) (isBreakOrEnd_visible visible) taken, spelled⟩

-- A backslash behind a line break protects the space there, when the line does not end right there
-- again.
theorem readsDouble_protected (stays : indent < foldWidth ∨ text = []) (reads : ReadsDouble folds indent false text)
    (spelled : Spells cells
      ('\\' :: (writeDouble folds indent (indent + 1) false true (' ' :: text) ++ '"' :: rest))) :
    ∃ after, takeDouble cells = .ok (' ' :: text, after) ∧ Spells after rest := by
  have written : writeDouble folds indent (indent + 1) false true (' ' :: text) =
      ' ' :: writeDouble folds indent (indent + 2) false false text := by
    have plain : escape? ' ' = none := rfl
    rw [writeDouble, plain]
    rcases stays with narrow | rfl
    · have inside : ¬foldWidth < indent + 1 := by omega
      simp [inside]
    · simp
  rw [written] at spelled
  exact takeDouble_space spelled fun mid spelled => reads _ _ _ _ spelled

theorem readsDouble (folds : Bool) (positive : 0 < indent) (first : Bool) (text : List Char)
    (tame : breaksWell indent (if first then text.tail else text) = true) : ReadsDouble folds indent first text := by
  intro column afterEscape cells rest spelled
  match text with
  | [] =>
      obtain ⟨cell, after, rfl, close, later⟩ := Spells.cons spelled
      exact ⟨after, takeDouble_close close after, later⟩
  | c :: text =>
      have later : breaksWell indent text = true := by
        cases first with
        | true => exact tame
        | false => exact breaksWell_tail tame
      have reads := readsDouble folds positive false text later
      have step := writeDouble_step folds indent column first afterEscape c text
      generalize writeDouble folds indent column first afterEscape (c :: text) = written at step spelled
      cases step with
      | escape escaped column =>
          rw [List.cons_append, List.cons_append, List.append_assoc] at spelled
          exact takeDouble_escape? escaped spelled fun mid spelled => reads _ _ _ _ spelled
      | escapeBreak escaped inner more =>
          rw [List.cons_append, List.cons_append, List.cons_append, List.append_assoc, List.append_assoc] at spelled
          refine takeDouble_escape? escaped spelled fun mid spelled => ?_
          by_cases space : ∃ more, text = ' ' :: more
          · -- The backslash before the space belongs to it: the line does not end there a second time.
            obtain ⟨behind, rfl⟩ := space
            subst inner
            have stays := breaksWell_space (by rw [escaped]; rfl) tame
            have behindReads := readsDouble folds positive false behind (breaksWell_tail later)
            exact takeDouble_break positive (by decide) (by decide)
              (by simpa [escapedBreak, columnAfterBreak] using spelled)
              fun mid spelled => readsDouble_protected stays behindReads spelled
          · have solid : ∀ more, text ≠ ' ' :: more := fun more same => space ⟨more, same⟩
            obtain ⟨d, others, starts, blank, inLine⟩ :=
              writeDouble_solid folds indent (columnAfterBreak indent text) false true rest solid
            rw [escapedBreak_solid indent solid, starts] at spelled
            exact takeDouble_break positive blank inLine spelled
              fun mid spelled => reads _ _ _ _ (by rw [starts]; exact spelled)
      | plain plain column =>
          by_cases space : c = ' '
          · subst space
            obtain ⟨cell, others, rfl, same, spelled⟩ := Spells.cons spelled
            obtain ⟨after, taken, later⟩ := reads _ _ _ _ spelled
            have inner := (goesOn_writeDouble folds indent column false false text rest).peek spelled
            have blank := takeDouble_passes.blank (by rw [same]; rfl) inner taken
            rw [same] at blank
            exact ⟨after, blank, later⟩
          · exact takeDouble_visible plain space spelled fun mid spelled => reads _ _ _ _ spelled
      | breakPlain plain column =>
          by_cases space : c = ' '
          · subst space
            exact takeDouble_break positive (by decide) (by decide) (by simpa [escapedBreak] using spelled)
              fun mid spelled => takeDouble_space spelled fun mid spelled => reads _ _ _ _ spelled
          · rw [escapedBreak_solid indent (by simp [space]), List.append_assoc, List.cons_append] at spelled
            have visible := (escape?_none plain).1
            exact takeDouble_break positive (isGap_visible visible space)
              (Bool.or_eq_false_iff.mp (isBreakOrEnd_visible visible)).2 spelled
              fun mid spelled => takeDouble_visible plain space spelled fun mid spelled => reads _ _ _ _ spelled
termination_by text.length

-- Where lines are indented as far as they may go, a line that ends behind an escape ends again before the space
-- that follows. Then two backslashes meet and are read as one, and the second line break as one more space.
theorem takeDouble_wide (wide : foldWidth ≤ indent) (late : foldWidth < column) (escaped : (escape? c).isSome = true)
    (more : text ≠ []) (reads : ReadsDouble true indent false text) (spelled : Spells cells
      (writeDouble true indent column false afterEscape (c :: ' ' :: text) ++ '"' :: rest)) :
    ∃ after, takeDouble cells = .ok (c :: '\\' :: ' ' :: ' ' :: text, after) ∧ Spells after rest := by
  obtain ⟨written, escaped⟩ := Option.isSome_iff_exists.mp escaped
  obtain ⟨body, rfl⟩ := escape?_mark escaped
  have positive : 0 < indent := Nat.lt_of_lt_of_le (by decide) wide
  have backslash : escape? '\\' = some ('\\' :: ['\\']) := rfl
  have filled : text.isEmpty = false := by simpa using more
  have space : writeDouble true indent (indent + 1) false true (' ' :: text) =
      '\\' :: newLine indent ++ '\\' :: ' ' :: writeDouble true indent (indent + 1 + 1) false false text := by
    have plain : escape? ' ' = none := rfl
    have deep : foldWidth < indent + 1 := by omega
    simp [writeDouble, plain, filled, deep, escapedBreak, columnAfterBreak]
  have parts : writeDouble true indent column false afterEscape (c :: ' ' :: text) =
      '\\' :: (body ++ ('\\' :: newLine indent ++ '\\' :: '\\' :: (newLine indent ++
        '\\' :: ' ' :: writeDouble true indent (indent + 1 + 1) false false text))) := by
    have ends : foldWidth + 1 < column + ('\\' :: body).length := by
      rw [List.length_cons]
      omega
    rw [writeDouble, escaped]
    simp only [Bool.not_false, List.isEmpty_cons, Bool.and_self, decide_eq_true ends, if_true, columnAfterBreak, space]
    simp [escapedBreak]
  rw [parts, List.cons_append, List.append_assoc] at spelled
  refine takeDouble_escape? escaped spelled fun mid spelled => ?_
  rw [List.append_assoc] at spelled
  refine takeDouble_break positive (by decide) (by decide) spelled fun mid spelled => ?_
  refine takeDouble_escape? backslash (by simpa using spelled) fun mid spelled => ?_
  refine takeDouble_passes.newLine positive (by decide) (by decide) spelled fun mid spelled => ?_
  exact takeDouble_space spelled fun mid spelled => reads _ _ _ _ spelled

end Triage.Yaml
