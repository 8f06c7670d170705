import Triage.Proofs.Source.Marks

namespace Triage.Source
open Triage.Text

theorem BlankAt.extend (blank : BlankAt text k) (tail : List Char) : BlankAt (text ++ tail) k := by
  obtain ⟨c, here, solid⟩ := blank
  obtain ⟨inside, _⟩ := List.getElem?_eq_some_iff.mp here
  exact ⟨c, by rw [List.getElem?_append_left inside, here], solid⟩

theorem Marks.extend (marks : Marks text i k) (tail : List Char) : Marks (text ++ tail) i k := by
  have inside := marks.inside
  obtain ⟨opening, after, before, ⟨gap, c, rest, parts, filled, letter⟩, apart⟩ := marks
  refine ⟨?_, after.extend tail, before.extend tail, ⟨gap, c, rest ++ tail, ?_, filled, letter⟩, apart⟩
  · rw [List.drop_append_of_le_length (by omega)]
    exact opening.trans (List.prefix_append _ _)
  · rw [List.drop_append_of_le_length (by omega), parts]
    simp

theorem BlankAt.inside (blank : BlankAt (text ++ tail) k) (within : k < text.length) : BlankAt text k := by
  obtain ⟨c, here, solid⟩ := blank
  rw [List.getElem?_append_left within] at here
  exact ⟨c, here, solid⟩

def ruleAt (text : List Char) (i k : Nat) : List Char :=
  (text.drop i).take (k + 4 - i) ++ ((text.drop (k + 4)).takeWhile isBlank ++ resultAt text k)

theorem ruleAt_append (front text : List Char) (i k : Nat) :
    ruleAt (front ++ text) (i + front.length) (k + front.length) = ruleAt text i k := by
  rw [ruleAt, Nat.add_right_comm, Nat.add_sub_add_right, drop_behind, drop_behind, resultAt_append, ruleAt]

theorem opensWord_dropWhile (text : List Char) : opensWord (text.dropWhile isWord) = false := by
  have stops := List.head?_dropWhile_not isWord text
  cases behind : text.dropWhile isWord with
  | nil => rfl
  | cons c tail =>
      have other : isWord c = false := by simpa [behind] using stops
      exact other

section Alone

variable {front gap word tail : List Char}

theorem Marks.parts (marks : Marks text i k) : ∃ front gap word tail,
    text = front ++ ("THEN".toList ++ (gap ++ (word ++ tail))) ∧ front.length = k ∧ Expr.IsGap gap ∧
      Lettered word ∧ opensWord tail = false := by
  obtain ⟨gap, c, rest, parts, filled, letter⟩ := marks.closing
  refine ⟨text.take k, gap, (c :: rest).takeWhile isWord, (c :: rest).dropWhile isWord, ?_, ?_, filled, ⟨?_, ?_⟩,
    opensWord_dropWhile _⟩
  · rw [List.takeWhile_append_dropWhile, ← parts, List.take_append_drop]
  · have inside := marks.inside
    rw [List.length_take, Nat.min_eq_left (by omega)]
  · exact List.all_takeWhile
  · simp [letter]

variable (spaced : Expr.IsGap gap) (lettered : Lettered word) (closes : opensWord tail = false)
include spaced lettered closes

theorem resultAt_parts (front : List Char) :
    resultAt (front ++ ("THEN".toList ++ (gap ++ (word ++ tail)))) front.length = word := by
  have behind : (front ++ ("THEN".toList ++ (gap ++ (word ++ tail)))).drop (front.length + 4) = gap ++ (word ++ tail) :=
    List.drop_length_add_append 4
  have result : trimLeft (gap ++ (word ++ tail)) = word ++ tail := by
    obtain ⟨c, letters, rfl⟩ := List.exists_cons_of_ne_nil lettered.filled
    rw [trimLeft_append_blank spaced.2]
    exact trimLeft_append_solid (lettered.solid (by simp)) [] (letters ++ tail)
  have stops : tail.takeWhile isWord = [] := by
    cases tail with
    | nil => rfl
    | cons c tail => simp [show isWord c = false from closes]
  rw [resultAt, behind, result, List.takeWhile_append_of_pos (List.all_eq_true.mp lettered.letters), stops,
    List.append_nil]

theorem ruleAt_parts (front : List Char) :
    ruleAt (front ++ ("THEN".toList ++ (gap ++ (word ++ tail)))) 0 front.length =
      front ++ ("THEN".toList ++ (gap ++ word)) := by
  have behind : (front ++ ("THEN".toList ++ (gap ++ (word ++ tail)))).drop (front.length + 4) = gap ++ (word ++ tail) :=
    List.drop_length_add_append 4
  have marked : (front ++ ("THEN".toList ++ (gap ++ (word ++ tail)))).take (front.length + 4) =
      front ++ "THEN".toList := List.take_length_add_append 4
  have blanks : (gap ++ (word ++ tail)).takeWhile isBlank = gap := by
    obtain ⟨c, letters, rfl⟩ := List.exists_cons_of_ne_nil lettered.filled
    rw [List.takeWhile_append_of_pos (List.all_eq_true.mp spaced.2)]
    simp [lettered.solid]
  rw [ruleAt, List.drop_zero, Nat.sub_zero, resultAt_parts spaced lettered closes, behind, marked, blanks,
    List.append_assoc]

end Alone

theorem Marks.alone (marks : Marks text 0 k) :
    Marks (ruleAt text 0 k) 0 k ∧ (∃ tail, text = ruleAt text 0 k ++ tail) ∧
      conditionAt (ruleAt text 0 k) 0 k = conditionAt text 0 k ∧ resultAt (ruleAt text 0 k) k = resultAt text k := by
  obtain ⟨front, gap, word, tail, rfl, rfl, spaced, lettered, closes⟩ := marks.parts
  have same := resultAt_parts spaced lettered (show opensWord [] = false by rfl) front
  rw [List.append_nil] at same
  rw [ruleAt_parts spaced lettered closes, resultAt_parts spaced lettered closes, same]
  have whole : front ++ ("THEN".toList ++ (gap ++ (word ++ tail))) =
      front ++ ("THEN".toList ++ (gap ++ word)) ++ tail := by simp
  refine ⟨?_, ⟨tail, whole⟩, ?_, rfl⟩
  · obtain ⟨opening, after, before, _, apart⟩ := marks
    rw [whole] at opening after before
    have long : front.length + 4 ≤ (front ++ ("THEN".toList ++ (gap ++ word))).length := by simp
    refine ⟨?_, after.inside (by omega), before.inside (by omega), ?_, apart⟩
    · exact List.prefix_of_prefix_length_le opening (List.prefix_append _ _) (by simp; omega)
    · obtain ⟨c, letters, rfl⟩ := List.exists_cons_of_ne_nil lettered.filled
      exact ⟨gap, c, letters, List.drop_left, spaced, lettered.letter (by simp)⟩
  · have apart := marks.apart
    rw [conditionAt, conditionAt, List.drop_append_of_le_length (by omega), List.drop_append_of_le_length (by omega),
      List.take_append_of_le_length (by simp), List.take_append_of_le_length (by simp)]

theorem Decisive.alone (decisive : Decisive text i k) :
    Decisive (ruleAt text i k) 0 (k - i) ∧ ruleAt text i k <:+: text ∧
      conditionAt (ruleAt text i k) 0 (k - i) = conditionAt text i k ∧
      resultAt (ruleAt text i k) (k - i) = resultAt text k := by
  have apart := decisive.last.1.apart
  have inside := decisive.last.1.inside
  obtain ⟨front, rest, rfl, rfl⟩ : ∃ front rest, front ++ rest = text ∧ front.length = i :=
    ⟨text.take i, text.drop i, List.take_append_drop i text, by rw [List.length_take, Nat.min_eq_left (by omega)]⟩
  obtain ⟨k, rfl⟩ : ∃ m, k = m + front.length := ⟨k - front.length, by omega⟩
  have behind : Decisive rest 0 k := Decisive.behind front (by rwa [Nat.zero_add])
  obtain ⟨marks, ⟨tail, parts⟩, condition, result⟩ := behind.last.1.alone
  have sameRule := ruleAt_append front rest 0 k
  have sameCondition := conditionAt_append front rest 0 k
  rw [Nat.zero_add] at sameRule sameCondition
  rw [sameRule, sameCondition, resultAt_append, Nat.add_sub_cancel]
  refine ⟨⟨⟨⟨k, marks⟩, fun j _ => Nat.zero_le j⟩, marks, fun l other => behind.last.2 ?_⟩, ?_, condition, result⟩
  · have wider := other.extend tail
    rwa [← parts] at wider
  · exact ⟨front, tail, by rw [List.append_assoc, ← parts]⟩

theorem readRule_decisive (oneLine : '\n' ∉ text) (decisive : Decisive text i k) (line : Int) :
    readRule line text =
      match Expr.read (conditionAt text i k) with
      | .error cause => .error (.inRule line text cause)
      | .ok e => .ok ⟨e, Datum.ofChars (resultAt text k)⟩ := by
  obtain ⟨condition, found, same⟩ := ifThen?_decisive oneLine decisive
  cases outcome : Expr.read (conditionAt text i k) with
  | error cause => simp only [readRule, found, same, outcome]
  | ok e => simp only [readRule, found, same, outcome]

theorem readRule_unmarked (oneLine : '\n' ∉ text) (line : Int) :
    (∃ fault, readRule line text = .error fault ∧ fault.kind = .malformedRule) ↔ ¬∃ i k, Marks text i k := by
  constructor
  · rintro ⟨fault, failed, kind⟩ ⟨i, k, marks⟩
    obtain ⟨i, k, decisive⟩ := exists_decisive marks
    rw [readRule_decisive oneLine decisive] at failed
    cases outcome : Expr.read (conditionAt text i k) with
    | ok e => simp [outcome] at failed
    | error cause =>
        simp only [outcome, Except.error.injEq] at failed
        subst failed
        rcases (Expr.read_fault outcome).kind with same | same
        · exact absurd (same.symm.trans kind) (by decide)
        · exact absurd (same.symm.trans kind) (by decide)
  · intro absent
    have none : ifThen? text = none := ifThen?_none oneLine fun i k marks => absent ⟨i, k, marks⟩
    exact ⟨.malformedRule line text, by rw [readRule, none], rfl⟩

section Decidable

instance (text : List Char) (k : Nat) : Decidable (BlankAt text k) :=
  decidable_of_iff (text[k]?.any isBlank = true) (by simp [BlankAt, Option.any_eq_true])

instance (text : List Char) : Decidable (OpensResult text) :=
  decidable_of_iff ((thenResult? text).isSome = true)
    ⟨fun found => opensResult_found (Option.some_get found).symm, fun opens => by rw [thenResult?_opens opens]; rfl⟩

instance (text : List Char) (i k : Nat) : Decidable (Marks text i k) :=
  decidable_of_iff ("IF".toList <+: text.drop i ∧ BlankAt text (i + 2) ∧ BlankAt text (k - 1) ∧
      OpensResult (text.drop k) ∧ i + 4 ≤ k)
    ⟨fun ⟨opening, after, before, closing, apart⟩ => ⟨opening, after, before, closing, apart⟩,
      fun ⟨opening, after, before, closing, apart⟩ => ⟨opening, after, before, closing, apart⟩⟩

-- All marks lie within the text, so that the search for them ends.
instance (text : List Char) (i k : Nat) : Decidable (Decisive text i k) :=
  decidable_of_iff (Marks text i k ∧ (∀ l < text.length, Marks text i l → l ≤ k) ∧
      ∀ j < i, ∀ l < text.length, ¬Marks text j l) <| by
    constructor
    · rintro ⟨marks, greatest, least⟩
      refine ⟨⟨⟨k, marks⟩, ?_⟩, marks, fun l other => greatest l (by have := other.inside; omega) other⟩
      rintro j ⟨l, other⟩
      by_contra before
      exact least j (Nat.lt_of_not_le before) l (by have := other.inside; omega) other
    · rintro ⟨⟨_, least⟩, marks, greatest⟩
      refine ⟨marks, fun l _ other => greatest other, fun j before l _ other => ?_⟩
      exact absurd (least ⟨l, other⟩) (by omega)

end Decidable

def crossed : List Char := "IFF ifIF\ta AND IF b THEN THEN \t THEN- IF".toList

end Triage.Source
