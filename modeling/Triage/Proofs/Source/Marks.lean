import Mathlib.Order.Lattice.Nat
import Triage.Proofs.Expr.Outcomes
import Triage.Proofs.Source.Rules

namespace Triage.Source
open Triage.Text

def BlankAt (text : List Char) (k : Nat) : Prop := ∃ c, text[k]? = some c ∧ isBlank c = true

def OpensResult (text : List Char) : Prop :=
  ∃ gap c rest, text = "THEN".toList ++ (gap ++ c :: rest) ∧ Expr.IsGap gap ∧ isWord c = true

-- An IF at place i and a THEN at place k, each with its blank on the side of the condition, and not
-- one blank for both of them.
structure Marks (text : List Char) (i k : Nat) : Prop where
  opening : "IF".toList <+: text.drop i
  after : BlankAt text (i + 2)
  before : BlankAt text (k - 1)
  closing : OpensResult (text.drop k)
  apart : i + 4 ≤ k

structure Decisive (text : List Char) (i k : Nat) : Prop where
  first : IsLeast {j | ∃ l, Marks text j l} i
  last : IsGreatest {l | Marks text i l} k

def conditionAt (text : List Char) (i k : Nat) : List Char := (text.drop (i + 2)).take (k - (i + 2))

def resultAt (text : List Char) (k : Nat) : List Char := (trimLeft (text.drop (k + 4))).takeWhile isWord

theorem Marks.inside (marks : Marks text i k) : k + 4 ≤ text.length := by
  obtain ⟨gap, c, rest, parts, _⟩ := marks.closing
  have total := congrArg List.length parts
  simp at total
  omega

theorem drop_behind (front text : List Char) (k : Nat) : (front ++ text).drop (k + front.length) = text.drop k := by
  rw [Nat.add_comm, List.drop_length_add_append]

theorem conditionAt_append (front text : List Char) (i k : Nat) :
    conditionAt (front ++ text) (i + front.length) (k + front.length) = conditionAt text i k := by
  rw [conditionAt, Nat.add_right_comm, drop_behind, Nat.add_sub_add_right, conditionAt]

theorem resultAt_append (front text : List Char) (k : Nat) :
    resultAt (front ++ text) (k + front.length) = resultAt text k := by
  rw [resultAt, Nat.add_right_comm, drop_behind, resultAt]

theorem thenResult?_opens (opens : OpensResult text) : thenResult? text = some (resultAt text 0) := by
  obtain ⟨gap, c, rest, rfl, ⟨filled, blank⟩, letter⟩ := opens
  have behind : trimLeft (gap ++ c :: rest) = c :: rest := by
    rw [trimLeft_append_blank blank]
    exact trimLeft_append_solid (isBlank_word letter) [] rest
  have mark : afterStart? "THEN".toList ("THEN".toList ++ (gap ++ c :: rest)) = some (gap ++ c :: rest) :=
    afterStart?_eq_some.mpr rfl
  have opened : thenResult?.opensBlank (gap ++ c :: rest) = true := by
    obtain ⟨first, gap, rfl⟩ := List.exists_cons_of_ne_nil filled
    exact List.all_eq_true.mp blank first (by simp)
  have word : resultAt ("THEN".toList ++ (gap ++ c :: rest)) 0 = (c :: rest).takeWhile isWord :=
    congrArg (List.takeWhile isWord) behind
  rw [word, thenResult?]
  simp only [mark, opened, behind]
  simp [letter]

theorem opensResult_found (found : thenResult? text = some result) : OpensResult text := by
  unfold thenResult? at found
  split at found
  · rename_i rest mark
    simp only at found
    split at found
    · rename_i accepted
      rw [Bool.and_eq_true] at accepted
      obtain ⟨opened, filled⟩ := accepted
      obtain ⟨gap, blank, parts⟩ := trimLeft_parts rest
      cases behind : trimLeft rest with
      | nil => simp [behind] at filled
      | cons c more =>
          have letter : isWord c = true := by
            by_contra other
            simp [behind, other] at filled
          refine ⟨gap, c, more, ?_, ⟨?_, blank⟩, letter⟩
          · rw [afterStart?_eq_some.mp mark, ← behind, ← parts]
          · rintro rfl
            rw [List.nil_append, behind] at parts
            subst parts
            exact absurd opened (by simp [thenResult?.opensBlank, isBlank_word letter])
    · cases found
  · cases found

theorem thenResult?_closed (closed : ¬OpensResult text) : thenResult? text = none :=
  Option.eq_none_iff_forall_ne_some.mpr fun _ found => closed (opensResult_found found)

structure Follows (text : List Char) (k : Nat) : Prop where
  blank : BlankAt text k
  closing : OpensResult (text.drop (k + 1))

theorem follows_cons : Follows (c :: text) (k + 1) ↔ Follows text k :=
  ⟨fun ⟨blank, closing⟩ => ⟨blank, closing⟩, fun ⟨blank, closing⟩ => ⟨blank, closing⟩⟩

theorem lastThen?_none (oneLine : '\n' ∉ text) (absent : ∀ k, ¬Follows text k) : lastThen? text = none := by
  induction text with
  | nil => rfl
  | cons c text ih =>
      rw [List.mem_cons, not_or] at oneLine
      have later := ih oneLine.2 fun k follows => absent (k + 1) (follows_cons.mpr follows)
      rw [lastThen?, if_neg (Ne.symm oneLine.1), later]
      by_cases blank : isBlank c = true
      · have closed : ¬OpensResult text := fun opens => absent 0 ⟨⟨c, rfl, blank⟩, opens⟩
        simp [thenResult?_closed closed]
      · simp [blank]

theorem lastThen?_last (oneLine : '\n' ∉ text) (last : IsGreatest {l | Follows text l} k) :
    lastThen? text = some (text.take k, resultAt text (k + 1)) := by
  induction text generalizing k with
  | nil =>
      obtain ⟨c, here, _⟩ := last.1.blank
      simp at here
  | cons c text ih =>
      rw [List.mem_cons, not_or] at oneLine
      rw [lastThen?, if_neg (Ne.symm oneLine.1)]
      cases k with
      | zero =>
          have none : lastThen? text = none := by
            refine lastThen?_none oneLine.2 fun l follows => ?_
            exact absurd (last.2 (follows_cons.mpr follows)) (by omega)
          obtain ⟨d, here, blank⟩ := last.1.blank
          cases here
          have found : thenResult? text = some (resultAt text 0) := thenResult?_opens last.1.closing
          rw [none]
          simp only [blank, if_true, found]
          rfl
      | succ k =>
          have later : IsGreatest {l | Follows text l} k := by
            refine ⟨follows_cons.mp last.1, fun l follows => ?_⟩
            exact Nat.le_of_succ_le_succ (last.2 (follows_cons.mpr follows))
          rw [ih oneLine.2 later]
          rfl

section Behind

variable {lead rest : List Char}

theorem follows_rest : Follows (lead ++ rest) (k + lead.length) ↔ Follows rest k := by
  induction lead with
  | nil => exact Iff.rfl
  | cons c lead ih => exact follows_cons.trans ih

theorem follows_last (blank : allBlank lead = true) (last : k + 1 = lead.length) (opens : OpensResult rest) :
    Follows (lead ++ rest) k := by
  refine ⟨⟨lead[k], ?_, List.all_eq_true.mp blank _ (List.getElem_mem _)⟩, ?_⟩
  · rw [List.getElem?_append_left (by omega), List.getElem?_eq_getElem]
  · rwa [last, List.drop_left]

-- A THEN is no blank, so that in the blanks it can only follow the last one.
theorem follows_lead (blank : allBlank lead = true) (follows : Follows (lead ++ rest) k) (inside : k < lead.length) :
    k + 1 = lead.length ∧ OpensResult rest := by
  obtain ⟨_, gap, c, more, parts, _, _⟩ := follows
  rw [List.drop_append_of_le_length inside] at parts
  cases behind : lead.drop (k + 1) with
  | nil =>
      have last : k + 1 = lead.length := Nat.le_antisymm inside (List.drop_eq_nil_iff.mp behind)
      rw [behind, List.nil_append] at parts
      exact ⟨last, gap, c, more, parts, ‹_›, ‹_›⟩
  | cons d others =>
      have solid : isBlank d = true := List.all_eq_true.mp blank d (List.mem_of_mem_drop (behind ▸ List.mem_cons_self))
      rw [behind] at parts
      obtain ⟨rfl, _⟩ := List.cons_eq_cons.mp parts
      cases solid

theorem afterIf?_or (blank : allBlank (c :: lead) = true) (loose : ¬BlankAt rest 0) :
    afterIf? (c :: lead ++ rest) = (lastThen? rest).or
      (if lead.isEmpty then none else (thenResult? rest).map fun result => ([], result)) := by
  have stops : rest.takeWhile isBlank = [] ∧ trimLeft rest = rest := by
    cases rest with
    | nil => exact ⟨rfl, rfl⟩
    | cons d rest =>
        have solid : isBlank d = false := by
          by_contra blank
          exact loose ⟨d, rfl, by simpa using blank⟩
        simp [trimLeft, solid]
  have blanks : (c :: lead ++ rest).takeWhile isBlank = c :: lead := by
    rw [List.takeWhile_append_of_pos (List.all_eq_true.mp blank), stops.1, List.append_nil]
  have behind : trimLeft (c :: lead ++ rest) = rest := by rw [trimLeft_append_blank blank, stops.2]
  simp only [afterIf?, blanks, behind]
  cases lastThen? rest <;> rfl

def Completes (text : List Char) (k : Nat) : Prop := 1 ≤ k ∧ BlankAt text 0 ∧ Follows text k

theorem exists_lead (blank : BlankAt text 0) :
    ∃ c lead rest, text = c :: lead ++ rest ∧ allBlank (c :: lead) = true ∧ ¬BlankAt rest 0 := by
  obtain ⟨c, here, solid⟩ := blank
  obtain ⟨more, rfl⟩ : ∃ more, text = c :: more := by
    cases text with
    | nil => cases here
    | cons d more => exact ⟨more, by cases here; rfl⟩
  refine ⟨c, more.takeWhile isBlank, trimLeft more, ?_, ?_, ?_⟩
  · rw [List.cons_append, trimLeft, List.takeWhile_append_dropWhile]
  · simp [allBlank, solid]
  · rintro ⟨d, first, blank⟩
    have dropped := List.head?_dropWhile_not isBlank more
    rw [← List.head?_eq_getElem?, trimLeft] at first
    simp [first, blank] at dropped

theorem afterIf?_unspaced (solid : ¬BlankAt text 0) : afterIf? text = none := by
  cases text with
  | nil => rfl
  | cons c text =>
      have other : ¬isBlank c = true := fun blank => solid ⟨c, rfl, blank⟩
      simp [afterIf?, other]

theorem afterIf?_none (oneLine : '\n' ∉ text) (absent : ∀ k, ¬Completes text k) : afterIf? text = none := by
  by_cases blank : BlankAt text 0
  · obtain ⟨c, lead, rest, rfl, blanks, loose⟩ := exists_lead blank
    have later : lastThen? rest = none := by
      refine lastThen?_none (fun member => oneLine (List.mem_append_right _ member)) fun k follows => ?_
      refine absent (k + (c :: lead).length) ⟨?_, blank, follows_rest.mpr follows⟩
      rw [List.length_cons]
      omega
    rw [afterIf?_or blanks loose, later, Option.none_or]
    cases lead with
    | nil => rfl
    | cons d lead =>
        have closed : ¬OpensResult rest := by
          intro opens
          refine absent (lead.length + 1) ⟨by omega, blank, follows_last blanks ?_ opens⟩
          rfl
        simp [thenResult?_closed closed]
  · exact afterIf?_unspaced blank

-- A THEN right behind the blanks counts where no later one does.
theorem afterIf?_near (blanks : allBlank (c :: d :: lead) = true) (loose : ¬BlankAt rest 0)
    (missed : lastThen? rest = none) (opens : OpensResult rest) :
    afterIf? (c :: d :: lead ++ rest) = some ([], resultAt rest 0) := by
  rw [afterIf?_or blanks loose, missed, Option.none_or, thenResult?_opens opens]
  rfl

theorem afterIf?_last (oneLine : '\n' ∉ text) (last : IsGreatest {l | Completes text l} k) :
    ∃ condition, afterIf? text = some (condition, resultAt text (k + 1)) ∧
      Expr.read condition = Expr.read (text.take (k + 1)) := by
  obtain ⟨⟨spaced, blank, follows⟩, greatest⟩ := last
  obtain ⟨c, lead, rest, rfl, blanks, loose⟩ := exists_lead blank
  have lifted : ∀ l, Follows rest l → l + (c :: lead).length ≤ k := by
    intro l later
    refine greatest ⟨?_, blank, follows_rest.mpr later⟩
    rw [List.length_cons]
    omega
  have oneLine : '\n' ∉ rest := fun member => oneLine (List.mem_append_right _ member)
  by_cases inside : k < (c :: lead).length
  · obtain ⟨ending, opens⟩ := follows_lead blanks follows inside
    have missed : lastThen? rest = none := by
      refine lastThen?_none oneLine fun l later => ?_
      have bound := lifted l later
      omega
    refine ⟨[], ?_, ?_⟩
    · rw [ending, ← Nat.zero_add (c :: lead).length, resultAt_append]
      cases lead with
      | nil =>
          rw [List.length_singleton] at ending
          omega
      | cons d lead => exact afterIf?_near blanks loose missed opens
    · have blankRead : Expr.read ((c :: lead) ++ [] ++ []) = Expr.read [] := Expr.read_spaced blanks (by rfl)
      rw [List.append_nil, List.append_nil] at blankRead
      rw [ending, List.take_left, blankRead]
  · obtain ⟨j, rfl⟩ := Nat.exists_eq_add_of_le' (Nat.le_of_not_lt inside)
    have here : IsGreatest {l | Follows rest l} j :=
      ⟨follows_rest.mp follows, fun l later => Nat.le_of_add_le_add_right (lifted l later)⟩
    obtain ⟨d, place, solid⟩ := here.1.blank
    refine ⟨rest.take j, ?_, ?_⟩
    · rw [afterIf?_or blanks loose, lastThen?_last oneLine here, Option.some_or, Nat.add_right_comm, resultAt_append]
    · have taken : (c :: lead ++ rest).take (j + (c :: lead).length + 1) = c :: lead ++ rest.take j ++ [d] := by
        rw [Nat.add_right_comm, Nat.add_comm, List.take_length_add_append, List.take_add_one, place, List.append_assoc]
        rfl
      rw [taken]
      exact (Expr.read_spaced blanks (by simp [allBlank, solid])).symm

end Behind

theorem marks_cons : Marks (c :: text) (i + 1) (k + 1) ↔ Marks text i k := by
  constructor
  · rintro ⟨opening, after, before, closing, apart⟩
    obtain ⟨l, rfl⟩ : ∃ l, k = l + 1 := ⟨k - 1, by omega⟩
    exact ⟨opening, after, before, closing, by omega⟩
  · rintro ⟨opening, after, before, closing, apart⟩
    obtain ⟨l, rfl⟩ : ∃ l, k = l + 1 := ⟨k - 1, by omega⟩
    exact ⟨opening, after, before, closing, by omega⟩

theorem marks_append (front : List Char) :
    Marks (front ++ text) (i + front.length) (k + front.length) ↔ Marks text i k := by
  induction front with
  | nil => exact Iff.rfl
  | cons c front ih => exact marks_cons.trans ih

theorem Decisive.behind (front : List Char)
    (decisive : Decisive (front ++ text) (i + front.length) (k + front.length)) : Decisive text i k := by
  obtain ⟨⟨_, least⟩, here, greatest⟩ := decisive
  refine ⟨⟨⟨k, (marks_append front).mp here⟩, ?_⟩, (marks_append front).mp here, fun l marks => ?_⟩
  · rintro j ⟨l, marks⟩
    exact Nat.le_of_add_le_add_right (least ⟨_, (marks_append front).mpr marks⟩)
  · exact Nat.le_of_add_le_add_right (greatest ((marks_append front).mpr marks))

theorem marks_start : Marks ("IF".toList ++ text) 0 (k + 3) ↔ Completes text k :=
  ⟨fun ⟨_, after, before, closing, apart⟩ => ⟨by omega, after, before, closing⟩,
    fun ⟨spaced, after, before, closing⟩ => ⟨⟨text, rfl⟩, after, before, closing, by omega⟩⟩

theorem start_none (oneLine : '\n' ∉ text) (absent : ∀ k, ¬Marks text 0 k) :
    (afterStart? "IF".toList text).bind afterIf? = none := by
  cases mark : afterStart? "IF".toList text with
  | none => rfl
  | some rest =>
      have parts := afterStart?_eq_some.mp mark
      subst parts
      refine afterIf?_none (fun member => oneLine (List.mem_append_right _ member)) fun k completes => ?_
      exact absent (k + 3) (marks_start.mpr completes)

theorem ifThen?_none (oneLine : '\n' ∉ text) (absent : ∀ i k, ¬Marks text i k) : ifThen? text = none := by
  induction text with
  | nil => rfl
  | cons c text ih =>
      rw [ifThen?, start_none oneLine (absent 0)]
      refine ih (fun member => oneLine (List.mem_cons_of_mem c member)) fun i k marks => ?_
      exact absent (i + 1) (k + 1) (marks_cons.mpr marks)

theorem ifThen?_start (oneLine : '\n' ∉ text) (last : IsGreatest {l | Marks text 0 l} k) :
    ∃ condition, ifThen? text = some (condition, resultAt text k) ∧
      Expr.read condition = Expr.read (conditionAt text 0 k) := by
  obtain ⟨rest, parts⟩ := last.1.opening
  rw [List.drop_zero] at parts
  subst parts
  obtain ⟨m, rfl⟩ : ∃ m, k = m + 3 := ⟨k - 3, by have := last.1.apart; omega⟩
  have behind : IsGreatest {l | Completes rest l} m := by
    refine ⟨marks_start.mp last.1, fun l completes => ?_⟩
    exact Nat.le_of_add_le_add_right (last.2 (marks_start.mpr completes))
  obtain ⟨condition, found, same⟩ := afterIf?_last (fun member => oneLine (List.mem_append_right _ member)) behind
  refine ⟨condition, ?_, same⟩
  apply ifThen?_found
  rw [afterStart?_eq_some.mpr rfl, Option.bind_some, found]
  rfl

theorem ifThen?_decisive (oneLine : '\n' ∉ text) (decisive : Decisive text i k) :
    ∃ condition, ifThen? text = some (condition, resultAt text k) ∧
      Expr.read condition = Expr.read (conditionAt text i k) := by
  induction text generalizing i k with
  | nil =>
      obtain ⟨_, parts⟩ := decisive.last.1.opening
      simp at parts
  | cons c text ih =>
      cases i with
      | zero => exact ifThen?_start oneLine decisive.last
      | succ i =>
          obtain ⟨l, rfl⟩ : ∃ l, k = l + 1 := ⟨k - 1, by have := decisive.last.1.apart; omega⟩
          have unopened : ∀ l, ¬Marks (c :: text) 0 l := by
            intro l marks
            exact absurd (decisive.first.2 ⟨l, marks⟩) (by omega)
          have later : Decisive text i l := Decisive.behind [c] decisive
          obtain ⟨condition, found, same⟩ := ih (fun member => oneLine (List.mem_cons_of_mem c member)) later
          have moved : conditionAt (c :: text) (i + 1) (l + 1) = conditionAt text i l := conditionAt_append [c] text i l
          refine ⟨condition, ?_, ?_⟩
          · rw [ifThen?, start_none oneLine unopened]
            exact found
          · rw [same, moved]

theorem exists_decisive (marks : Marks text i k) : ∃ i k, Decisive text i k := by
  have bounded : BddAbove {l | Marks text (sInf {j | ∃ l, Marks text j l}) l} := by
    refine ⟨text.length, fun l marks => ?_⟩
    have inside := marks.inside
    omega
  have first : sInf {j | ∃ l, Marks text j l} ∈ {j | ∃ l, Marks text j l} := Nat.sInf_mem ⟨i, k, marks⟩
  exact ⟨_, _, ⟨first, fun _ => Nat.sInf_le⟩, Nat.sSup_mem first bounded, fun _ => le_csSup bounded⟩

end Triage.Source
