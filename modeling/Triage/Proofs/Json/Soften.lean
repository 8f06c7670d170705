import Triage.Proofs.Json.Text
import Triage.Proofs.Outcome
import Triage.Proofs.Text.Search

namespace Triage.Json
open Triage.Text

def soften (text : List Char) : List Char := replaceAll "</".toList "<\\/".toList text

theorem soften_nil : soften [] = [] := by rw [soften, replaceAll]

theorem soften_tag (text : List Char) : soften ('<' :: '/' :: text) = '<' :: '\\' :: '/' :: soften text :=
  replaceAll_here (show "</".toList ≠ [] by decide) "<\\/".toList text

theorem soften_loose (loose : ¬['<', '/'] <+: c :: text) : soften (c :: text) = c :: soften text :=
  replaceAll_other loose "<\\/".toList

theorem soften_cons (plain : c ≠ '<') (text : List Char) : soften (c :: text) = c :: soften text :=
  soften_loose fun starts => plain (List.cons_prefix_cons.mp starts).1.symm

theorem soften_step (c : Char) (text : List Char) :
    (c = '<' ∧ ∃ tail, text = '/' :: tail) ∨ soften (c :: text) = c :: soften text := by
  by_cases starts : ['<', '/'] <+: c :: text
  · obtain ⟨tail, parts⟩ := starts
    cases parts
    exact .inl ⟨rfl, tail, rfl⟩
  · exact .inr (soften_loose starts)

theorem soften_first (c : Char) (text : List Char) : ∃ more, soften (c :: text) = c :: more := by
  rcases soften_step c text with ⟨rfl, tail, rfl⟩ | passed
  · exact ⟨_, soften_tag tail⟩
  · exact ⟨_, passed⟩

theorem soften_starts (starts : soften text = c :: more) : ∃ rest, text = c :: rest := by
  cases text with
  | nil =>
      rw [soften_nil] at starts
      cases starts
  | cons d text =>
      obtain ⟨others, parts⟩ := soften_first d text
      rw [parts] at starts
      cases starts
      exact ⟨text, rfl⟩

theorem soften_length (text : List Char) : text.length ≤ (soften text).length := by
  induction text using pattern_induction (show "</".toList ≠ [] by decide) with
  | nil => rw [soften_nil]
  | here text ih =>
      have parts : soften ("</".toList ++ text) = '<' :: '\\' :: '/' :: soften text := soften_tag text
      rw [parts]
      simp only [List.length_append, List.length_cons] at ih ⊢
      have two : "</".toList.length = 2 := rfl
      omega
  | other c text loose ih =>
      rw [soften_loose loose, List.length_cons, List.length_cons]
      omega

theorem takeWhile_soften {p : Char → Bool} (plain : p '<' = false) (text : List Char) :
    (soften text).takeWhile p = text.takeWhile p ∧ (soften text).dropWhile p = soften (text.dropWhile p) := by
  induction text with
  | nil => simp [soften_nil]
  | cons c text ih =>
      cases inRun : p c with
      | true =>
          have other : c ≠ '<' := by
            rintro rfl
            rw [plain] at inRun
            cases inRun
          simp [soften_cons other, inRun, ih]
      | false =>
          obtain ⟨more, parts⟩ := soften_first c text
          simp [parts, inRun]

theorem skipSpace_soften (text : List Char) : skipSpace (soften text) = soften (skipSpace text) :=
  (takeWhile_soften (by rfl) text).2

theorem skipSpace_head (starts : skipSpace text = c :: rest) (plain : c ≠ '<') :
    skipSpace (soften text) = c :: soften rest := by
  rw [skipSpace_soften, starts, soften_cons plain]

theorem afterStart?_soften (plain : '<' ∉ word) (text : List Char) :
    afterStart? word (soften text) = (afterStart? word text).map soften := by
  induction word generalizing text with
  | nil => rfl
  | cons p word ih =>
      rw [List.mem_cons, not_or] at plain
      cases text with
      | nil => rw [soften_nil]; rfl
      | cons c text =>
          by_cases same : p = c
          · subst same
            rw [soften_cons (Ne.symm plain.1), afterStart?, afterStart?, if_pos rfl, if_pos rfl]
            exact ih plain.2 text
          · obtain ⟨more, parts⟩ := soften_first c text
            rw [parts, afterStart?, afterStart?, if_neg same, if_neg same]
            rfl

theorem readLiteral?_soften (text : List Char) :
    readLiteral? (soften text) = (readLiteral? text).map fun (d, rest) => (d, soften rest) := by
  have plain : ∀ literal ∈ literals, '<' ∉ literal.1 := by decide
  unfold readLiteral?
  generalize literals = words at plain
  induction words with
  | nil => rfl
  | cons literal words ih =>
      obtain ⟨here, later⟩ := List.forall_mem_cons.mp plain
      obtain ⟨word, d⟩ := literal
      simp only [List.findSome?_cons, afterStart?_soften here, ih later]
      cases afterStart? word text <;> rfl

section Numbers

def softened (found : α × List Char) : α × List Char := (found.1, soften found.2)

theorem runs_soften {p : Char → Bool} (plain : p '<' = false) (text : List Char) :
    ((soften text).takeWhile p, (soften text).dropWhile p) = softened (text.takeWhile p, text.dropWhile p) := by
  obtain ⟨same, rest⟩ := takeWhile_soften plain text
  rw [same, rest, softened]

theorem wholePart_other (other : c ≠ '0') (text : List Char) :
    wholePart (c :: text) = ((c :: text).takeWhile isDigit, (c :: text).dropWhile isDigit) := by
  rw [wholePart]
  simp [other]

theorem wholePart_soften (text : List Char) : wholePart (soften text) = softened (wholePart text) := by
  cases text with
  | nil => simp [softened, soften_nil, wholePart]
  | cons c text =>
      by_cases zero : c = '0'
      · subst zero
        rw [soften_cons (by decide)]
        rfl
      · obtain ⟨more, parts⟩ := soften_first c text
        have runs := runs_soften (p := isDigit) (by rfl) (c :: text)
        rw [parts] at runs ⊢
        rw [wholePart_other zero, wholePart_other zero, runs]

theorem fractionPart_other (other : c ≠ '.') (text : List Char) : fractionPart (c :: text) = ([], c :: text) := by
  rw [fractionPart]
  simp [other]

theorem fractionPart_soften (text : List Char) : fractionPart (soften text) = softened (fractionPart text) := by
  cases text with
  | nil => simp [softened, soften_nil, fractionPart]
  | cons c text =>
      by_cases point : c = '.'
      · subst point
        obtain ⟨same, rest⟩ := takeWhile_soften (p := isDigit) (by rfl) text
        rw [soften_cons (by decide), fractionPart, fractionPart, same, rest]
        split
        · rw [softened, soften_cons (by decide)]
        · rfl
      · obtain ⟨more, parts⟩ := soften_first c text
        rw [parts, fractionPart_other point, fractionPart_other point, softened, parts]

def exponentSign (text : List Char) : Bool × List Char :=
  match text with
  | '-' :: more => (true, more)
  | '+' :: more => (false, more)
  | _ => (false, text)

theorem exponentSign_other (minus : c ≠ '-') (plus : c ≠ '+') (text : List Char) :
    exponentSign (c :: text) = (false, c :: text) := by
  rw [exponentSign]
  · simp [minus]
  · simp [plus]

theorem exponentSign_soften (text : List Char) : exponentSign (soften text) = softened (exponentSign text) := by
  cases text with
  | nil => simp [softened, soften_nil, exponentSign]
  | cons c text =>
      by_cases minus : c = '-'
      · subst minus
        rw [soften_cons (by decide)]
        rfl
      by_cases plus : c = '+'
      · subst plus
        rw [soften_cons (by decide)]
        rfl
      obtain ⟨more, parts⟩ := soften_first c text
      rw [parts, exponentSign_other minus plus, exponentSign_other minus plus, softened, parts]

theorem exponentPart_mark (mark : c = 'e' ∨ c = 'E') (text : List Char) :
    exponentPart (c :: text) =
      match readDigits? 10 ((exponentSign text).2.takeWhile isDigit) with
      | some n => (some (if (exponentSign text).1 then -(n : Int) else n), (exponentSign text).2.dropWhile isDigit)
      | none => (none, c :: text) := by
  have marked : (decide (c = 'e') || decide (c = 'E')) = true := by simpa using mark
  unfold exponentPart
  dsimp only
  rw [if_pos marked]
  rfl

theorem exponentPart_other (other : ¬(c = 'e' ∨ c = 'E')) (text : List Char) :
    exponentPart (c :: text) = (none, c :: text) := by
  have unmarked : ¬(decide (c = 'e') || decide (c = 'E')) = true := by simpa using other
  unfold exponentPart
  dsimp only
  rw [if_neg unmarked]

theorem exponentPart_soften (text : List Char) : exponentPart (soften text) = softened (exponentPart text) := by
  cases text with
  | nil => simp [softened, soften_nil, exponentPart]
  | cons c text =>
      by_cases mark : c = 'e' ∨ c = 'E'
      · have plain : c ≠ '<' := by
          rintro rfl
          simp at mark
        obtain ⟨same, rest⟩ := takeWhile_soften (p := isDigit) (by rfl) (exponentSign text).2
        rw [soften_cons plain, exponentPart_mark mark, exponentPart_mark mark, exponentSign_soften]
        simp only [softened, same, rest]
        cases readDigits? 10 ((exponentSign text).2.takeWhile isDigit) with
        | some n => rfl
        | none => rw [soften_cons plain]
      · obtain ⟨more, parts⟩ := soften_first c text
        rw [parts, exponentPart_other mark, exponentPart_other mark, softened, parts]

def numberSign (text : List Char) : Bool × List Char :=
  match text with
  | '-' :: rest => (true, rest)
  | _ => (false, text)

theorem numberSign_soften (text : List Char) : numberSign (soften text) = softened (numberSign text) := by
  cases text with
  | nil => simp [softened, soften_nil, numberSign]
  | cons c text =>
      by_cases minus : c = '-'
      · subst minus
        rw [soften_cons (by decide)]
        rfl
      · have other : ∀ more, numberSign (c :: more) = (false, c :: more) := by
          intro more
          rw [numberSign]
          simp [minus]
        obtain ⟨more, parts⟩ := soften_first c text
        rw [parts, other, other, softened, parts]

def numberOf (length : Nat) (negative : Bool) (whole fraction : List Char) (exponent : Option Int)
    (rest : List Char) : Except Problem (Datum × List Char) :=
  match readDigits? 10 whole with
  | none => .error ⟨.expectingValue, length⟩
  | some n =>
      if fraction.isEmpty && exponent.isNone then
        if Datum.digitLimit < whole.length then .error ⟨.digitCount whole.length, length⟩
        else .ok (.int (if negative then -(n : Int) else n), rest)
      else
        let digits := (readDigits? 10 (whole ++ fraction)).getD 0
        .ok (.real (.ofDecimal negative digits (exponent.getD 0 - fraction.length)), rest)

theorem readNumber_parts (text : List Char) :
    readNumber text =
      let sign := numberSign text
      let whole := wholePart sign.2
      let fraction := fractionPart whole.2
      let exponent := exponentPart fraction.2
      numberOf text.length sign.1 whole.1 fraction.1 exponent.1 exponent.2 := by
  rfl

theorem numberOf_rest (found : numberOf length negative whole fraction exponent rest = .ok (d, after)) :
    after = rest ∧ ∀ length rest, numberOf length negative whole fraction exponent rest = .ok (d, rest) := by
  unfold numberOf at found ⊢
  split at found
  · cases found
  · split at found
    · rename_i integer
      split at found
      · cases found
      · rename_i short
        cases found
        exact ⟨rfl, fun _ _ => by rw [if_pos integer, if_neg short]⟩
    · rename_i real
      cases found
      exact ⟨rfl, fun _ _ => by rw [if_neg real]⟩

theorem readNumber_soften (found : readNumber text = .ok (d, rest)) :
    readNumber (soften text) = .ok (d, soften rest) := by
  rw [readNumber_parts] at found ⊢
  obtain ⟨same, anywhere⟩ := numberOf_rest found
  simp only [numberSign_soften, wholePart_soften, fractionPart_soften, exponentPart_soften, softened]
  rw [same]
  exact anywhere _ _

end Numbers

section Strings

-- A text up to its closing mark, the units that it spells, and what comes after it.
inductive Spells : List Char → List Nat → List Char → Prop where
  | stop : Spells ('"' :: rest) [] rest
  | unit (digits : readDigits? 16 [a, b, c, d] = some unit) (later : Spells (e :: text) units rest) :
      Spells ('\\' :: 'u' :: a :: b :: c :: d :: e :: text) (unit :: units) rest
  | short (escape : shortEscape? mark = some c) (later : Spells text units rest) :
      Spells ('\\' :: mark :: text) (c.toNat :: units) rest
  | plain (notMark : c ≠ '"') (notEscape : c ≠ '\\') (visible : 0x20 ≤ c.toNat) (later : Spells text units rest) :
      Spells (c :: text) (c.toNat :: units) rest

theorem Spells.read (spells : Spells text units rest) (start : List Char) :
    readUnits start text = .ok (units, rest) := by
  induction spells with
  | stop => rfl
  | unit digits _ ih =>
      simp only [readUnits, digits, ih]
      rfl
  | short escape _ ih => exact readUnits_short start escape ih
  | plain notMark notEscape visible _ ih => exact readUnits_plain start notMark notEscape visible ih

theorem spells_of_read (found : readUnits start text = .ok (units, rest)) : Spells text units rest := by
  induction text using readUnits.induct generalizing units rest with
  | case1 => cases found
  | case2 after =>
      cases found
      exact .stop
  | case3 => cases found
  | case4 a b c d e after none =>
      simp only [readUnits, none] at found
      cases found
  | case5 a b c d e after unit digits ih =>
      simp only [readUnits, digits] at found
      obtain ⟨⟨units, after⟩, later, same⟩ := bind_eq_ok.mp found
      cases same
      exact .unit digits (ih later)
  | case6 after few =>
      rw [readUnits] at found
      · cases found
      · exact few
  | case7 c after few other none =>
      rw [readUnits] at found
      · simp only [none] at found
        cases found
      all_goals assumption
  | case8 c after few other plain escape ih =>
      rw [readUnits] at found
      · simp only [escape] at found
        obtain ⟨⟨units, after⟩, later, same⟩ := bind_eq_ok.mp found
        cases same
        exact .short escape (ih later)
      all_goals assumption
  | case9 c after notMark alone unit many escape control =>
      rw [readUnits] at found
      · rw [if_pos control] at found
        cases found
      all_goals assumption
  | case10 c after notMark alone unit many escape visible ih =>
      rw [readUnits] at found
      · rw [if_neg visible] at found
        obtain ⟨⟨units, rest⟩, later, same⟩ := bind_eq_ok.mp found
        cases same
        refine .plain notMark ?_ (Nat.le_of_not_lt visible) (ih later)
        rintro rfl
        cases after with
        | nil => exact alone rfl rfl
        | cons d after => exact escape d after rfl rfl
      all_goals assumption

theorem digits_plain (digits : readDigits? 16 text = some n) : '<' ∉ text := by
  have run : ∀ (text : List Char) (total : Nat), '<' ∈ text →
      text.foldlM (fun total c => (digitValue? 16 c).map (total * 16 + ·)) total = none := by
    intro text
    induction text with
    | nil => simp
    | cons c text ih =>
        intro total member
        rw [List.foldlM_cons]
        rcases List.mem_cons.mp member with rfl | later
        · rfl
        · cases digitValue? 16 c with
          | none => rfl
          | some value => exact ih _ later
  intro member
  rw [readDigits?] at digits
  split at digits
  · cases digits
  · rw [run text 0 member] at digits
    cases digits

theorem Spells.slash (spells : Spells ('/' :: text) units rest) : Spells ('\\' :: '/' :: text) units rest := by
  cases spells with
  | plain notMark notEscape visible later => exact .short rfl later

theorem Spells.soften (spells : Spells text units rest) : Spells (soften text) units (soften rest) := by
  induction spells with
  | stop =>
      rw [soften_cons (by decide)]
      exact .stop
  | @unit a b c d unit e text units rest digits later ih =>
      have plain := digits_plain digits
      simp only [List.mem_cons, List.not_mem_nil, or_false, not_or] at plain
      obtain ⟨first, second, third, fourth⟩ := plain
      obtain ⟨more, parts⟩ := soften_first e text
      rw [soften_cons (by decide), soften_cons (by decide), soften_cons (Ne.symm first), soften_cons (Ne.symm second),
        soften_cons (Ne.symm third), soften_cons (Ne.symm fourth), parts]
      rw [parts] at ih
      exact .unit digits ih
  | @short mark c text units rest escape later ih =>
      have plain : mark ≠ '<' := by
        rintro rfl
        cases escape
      rw [soften_cons (by decide), soften_cons plain]
      exact .short escape ih
  | @plain c text units rest notMark notEscape visible later ih =>
      rcases soften_step c text with ⟨rfl, tail, rfl⟩ | passed
      · rw [soften_tag]
        rw [soften_cons (by decide)] at ih
        exact .plain notMark notEscape visible ih.slash
      · rw [passed]
        exact .plain notMark notEscape visible ih

theorem readText_soften (found : readText text = .ok (chars, rest)) :
    readText (soften text) = .ok (chars, soften rest) := by
  obtain ⟨⟨units, after⟩, spelt, same⟩ := bind_eq_ok.mp found
  cases same
  rw [readText, (spells_of_read spelt).soften.read]
  rfl

end Strings

section Values

-- What is read at the start of a text with some fuel is read there with more of it when the text is
-- softened.
def Survives (reader : Nat → List Char → Except Problem (α × List Char)) (fuel : Nat) : Prop :=
  ∀ text found rest, reader fuel text = .ok (found, rest) →
    ∀ more, fuel ≤ more → reader more (soften text) = .ok (found, soften rest)

theorem Survives.spaced {reader : Nat → List Char → Except Problem (α × List Char)} (survives : Survives reader fuel)
    (read : reader fuel (skipSpace text) = .ok (found, rest)) (enough : fuel ≤ more) :
    reader more (skipSpace (soften text)) = .ok (found, soften rest) := by
  rw [skipSpace_soften]
  exact survives _ _ _ read more enough

theorem readItems_survives (values : Survives readValue fuel) (items : Survives readItems fuel) :
    Survives readItems (fuel + 1) := by
  intro text found rest read more enough
  obtain ⟨more, rfl⟩ : ∃ less, more = less + 1 := ⟨more - 1, by omega⟩
  rw [readItems] at read ⊢
  obtain ⟨⟨item, after⟩, here, read⟩ := bind_eq_ok.mp read
  refine bind_eq_ok.mpr ⟨(item, soften after), values _ _ _ here more (by omega), ?_⟩
  dsimp only at read ⊢
  split at read
  · rename_i tail closes
    cases read
    rw [skipSpace_head closes (by decide)]
    rfl
  · rename_i tail comma
    obtain ⟨⟨others, after⟩, later, same⟩ := bind_eq_ok.mp read
    cases same
    rw [skipSpace_head comma (by decide)]
    exact bind_eq_ok.mpr ⟨_, items.spaced later (by omega), rfl⟩
  · cases read

theorem readFields_survives (values : Survives readValue fuel) (fields : Survives readFields fuel) :
    Survives readFields (fuel + 1) := by
  intro text found rest read more enough
  obtain ⟨more, rfl⟩ : ∃ less, more = less + 1 := ⟨more - 1, by omega⟩
  unfold readFields at read
  split at read
  · rename_i start
    obtain ⟨⟨key, after⟩, name, read⟩ := bind_eq_ok.mp read
    rw [soften_cons (by decide), readFields]
    refine bind_eq_ok.mpr ⟨(key, soften after), readText_soften name, ?_⟩
    dsimp only at read ⊢
    split at read
    · rename_i behind colon
      rw [skipSpace_head colon (by decide)]
      obtain ⟨⟨value, after⟩, here, read⟩ := bind_eq_ok.mp read
      refine bind_eq_ok.mpr ⟨(value, soften after), values.spaced here (by omega), ?_⟩
      dsimp only at read ⊢
      split at read
      · rename_i tail closes
        cases read
        rw [skipSpace_head closes (by decide)]
        rfl
      · rename_i tail comma
        obtain ⟨⟨others, after⟩, later, same⟩ := bind_eq_ok.mp read
        cases same
        rw [skipSpace_head comma (by decide)]
        exact bind_eq_ok.mpr ⟨_, fields.spaced later (by omega), rfl⟩
      · cases read
    · cases read
  · cases read

theorem readValue_survives (items : Survives readItems fuel) (fields : Survives readFields fuel) :
    Survives readValue (fuel + 1) := by
  intro text found rest read more enough
  obtain ⟨more, rfl⟩ : ∃ less, more = less + 1 := ⟨more - 1, by omega⟩
  unfold readValue at read
  split at read
  · rename_i start
    obtain ⟨⟨chars, after⟩, spelt, same⟩ := bind_eq_ok.mp read
    cases same
    rw [soften_cons (by decide), readValue]
    exact bind_eq_ok.mpr ⟨_, readText_soften spelt, rfl⟩
  · rename_i start
    rw [soften_cons (by decide), readValue]
    split at read
    · rename_i tail closes
      cases read
      rw [skipSpace_head closes (by decide)]
      rfl
    · rename_i tail filled
      obtain ⟨⟨found, after⟩, inside, same⟩ := bind_eq_ok.mp read
      cases same
      rw [skipSpace_soften]
      split
      · rename_i other closes
        obtain ⟨_, closed⟩ := soften_starts closes
        exact absurd closed (filled _)
      · exact bind_eq_ok.mpr ⟨_, items _ _ _ inside more (by omega), rfl⟩
  · rename_i start
    rw [soften_cons (by decide), readValue]
    split at read
    · rename_i tail closes
      cases read
      rw [skipSpace_head closes (by decide)]
      rfl
    · rename_i tail filled
      obtain ⟨⟨found, after⟩, inside, same⟩ := bind_eq_ok.mp read
      cases same
      rw [skipSpace_soften]
      split
      · rename_i other closes
        obtain ⟨_, closed⟩ := soften_starts closes
        exact absurd closed (filled _)
      · exact bind_eq_ok.mpr ⟨_, fields _ _ _ inside more (by omega), rfl⟩
  · rename_i noText noList noObject
    -- Softening puts no mark in front of a text that had none.
    have other {c : Char} (apart : ∀ rest, text ≠ c :: rest) (rest : List Char) : soften text ≠ c :: rest := by
      intro starts
      obtain ⟨_, parts⟩ := soften_starts starts
      exact apart _ parts
    rw [readValue]
    · rw [readLiteral?_soften]
      cases literal : readLiteral? text with
      | some datum =>
          rw [literal] at read
          cases read
          rfl
      | none =>
          rw [literal] at read
          exact readNumber_soften read
    · exact other noText
    · exact other noList
    · exact other noObject

theorem reading_survives (fuel : Nat) : Survives readValue fuel ∧ Survives readItems fuel ∧ Survives readFields fuel := by
  induction fuel with
  | zero =>
      refine ⟨?_, ?_, ?_⟩
      all_goals
        intro text found rest read
        cases read
  | succ fuel ih =>
      obtain ⟨values, items, fields⟩ := ih
      exact ⟨readValue_survives items fields, readItems_survives values items, readFields_survives values fields⟩

end Values

-- A text that can be read is read as the same datum when it is softened.
theorem read_soften (found : read text = .ok d) : read (soften text) = .ok d := by
  have whole : readWhole text = .ok d := mapError_eq_ok.mp found
  apply mapError_eq_ok.mpr
  unfold readWhole at whole
  split at whole
  · cases whole
  · rename_i unmarked
    obtain ⟨⟨value, after⟩, here, ending⟩ := bind_eq_ok.mp whole
    have long := soften_length text
    have here := (reading_survives _).1.spaced here (show _ ≤ 2 * (soften text).length + 2 by omega)
    rw [readWhole]
    · refine bind_eq_ok.mpr ⟨(value, soften after), here, ?_⟩
      dsimp only at ending ⊢
      split at ending
      · rename_i blank
        cases ending
        rw [skipSpace_soften, blank, soften_nil]
        rfl
      · cases ending
    · intro rest marked
      obtain ⟨_, starts⟩ := soften_starts marked
      exact unmarked _ starts

end Triage.Json
