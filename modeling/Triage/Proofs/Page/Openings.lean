import Triage.Proofs.Page.Markup
import Triage.Proofs.Text.Gaps

namespace Triage.Page
open Triage.Text

def Switches (text : List Char) : Prop :=
  ∃ front between tag back, text = front ++ "<!--".toList ++ between ++ tag ++ back ∧ lowered tag = "<script".toList

inductive Opening where
  | comment
  | script
  deriving DecidableEq, Repr

namespace Opening

def word : Opening → List Char
  | .comment => "<!--".toList
  | .script => "<script".toList

def all : List Opening := [.comment, .script]

theorem mem_all (opening : Opening) : opening ∈ all := by
  cases opening <;> decide

end Opening

def openingsHere (text : List Char) : List Opening :=
  Opening.all.filter fun opening => decide (opening.word <+: lowered text)

def openings : List Char → List Opening
  | [] => []
  | c :: text => openingsHere (c :: text) ++ openings text

def isLetter (c : Char) : Bool := Json.isCapital c || "<!-script".toList.contains c

def isInitial (c : Char) : Bool := c == '_' || c == '<'

abbrev Alike (x y : List Char) : Prop := SameWords isLetter isInitial x y

section Letters

theorem letter_upper (foreign : isLetter c = false) : c.toLower = c := by
  unfold Char.toLower
  split
  · rename_i upper
    have capital : c.isUpper = true := decide_eq_true upper
    rw [isLetter, Json.isCapital, capital] at foreign
    simp at foreign
  · rfl

theorem Opening.letters (opening : Opening) : ∀ c ∈ opening.word, isLetter c = true :=
  List.all_eq_true.mp (by cases opening <;> decide)

theorem Opening.foreign (opening : Opening) (foreign : isLetter c = false) : c ∉ opening.word := by
  intro member
  rw [opening.letters c member] at foreign
  cases foreign

theorem Opening.word_first (opening : Opening) : ∃ more, opening.word = '<' :: more := by
  cases opening <;> exact ⟨_, rfl⟩

theorem Marker.isWord (marker : Marker) : Word isLetter isInitial marker.word := by
  obtain ⟨more, word⟩ := marker.word_first
  refine ⟨⟨'_', more, word, rfl⟩, ?_⟩
  intro c member
  rw [isLetter, marker.capitals.letters c member, Bool.true_or]

theorem lowered_alike (same : Alike x y) : Alike (lowered x) (lowered y) := by
  apply same.map fun c foreign => letter_upper foreign
  intro c inside
  rw [isInitial, Bool.or_eq_false_iff, beq_eq_false_iff_ne, beq_eq_false_iff_ne] at inside ⊢
  exact ⟨fun same => inside.1 (toLower_below (by decide) same), fun same => inside.2 (toLower_below (by decide) same)⟩

end Letters

section Openings

variable {opening : Opening} {text front back x y : List Char}

theorem mem_openingsHere : opening ∈ openingsHere text ↔ opening.word <+: lowered text := by
  rw [openingsHere, List.mem_filter, decide_eq_true_iff, and_iff_right opening.mem_all]

theorem openingsHere_congr (same : ∀ opening : Opening, opening.word <+: lowered x ↔ opening.word <+: lowered y) :
    openingsHere x = openingsHere y := by
  apply List.filter_congr
  intro opening _
  rw [decide_eq_decide]
  exact same opening

theorem openingsHere_other (other : c ≠ '<') (text : List Char) : openingsHere (c :: text) = [] := by
  rw [List.eq_nil_iff_forall_not_mem]
  intro opening member
  obtain ⟨more, word⟩ := opening.word_first
  rw [mem_openingsHere, word] at member
  exact other (toLower_below (by decide) (List.cons_prefix_cons.mp member).1.symm)

theorem openings_skip (absent : '<' ∉ front) (back : List Char) : openings (front ++ back) = openings back := by
  induction front with
  | nil => rfl
  | cons c front ih =>
      rw [List.mem_cons, not_or] at absent
      rw [List.cons_append, openings, openingsHere_other (Ne.symm absent.1), List.nil_append]
      exact ih absent.2

theorem openings_break (foreign : isLetter c = false) (front back : List Char) :
    openings (front ++ c :: back) = openings front ++ openings back := by
  induction front with
  | nil =>
      have absent : '<' ∉ [c] := by
        intro member
        rw [← List.mem_singleton.mp member] at foreign
        cases foreign
      exact openings_skip absent back
  | cons d front ih =>
      have here : openingsHere (d :: (front ++ c :: back)) = openingsHere (d :: front) := by
        apply openingsHere_congr
        intro opening
        have parts : lowered (d :: (front ++ c :: back)) = lowered (d :: front) ++ c :: lowered back := by
          simp [lowered, letter_upper foreign]
        rw [parts]
        constructor
        · exact prefix_break (opening.foreign foreign) _
        · intro inside
          exact inside.trans (List.prefix_append _ _)
      rw [List.cons_append, openings, here, ih, openings, List.append_assoc]

theorem mem_openings : opening ∈ openings text ↔ opening.word <:+: lowered text := by
  induction text with
  | nil =>
      obtain ⟨more, word⟩ := opening.word_first
      simp [openings, lowered, word]
  | cons c text ih =>
      rw [openings, List.mem_append, mem_openingsHere, ih]
      exact List.infix_cons_iff.symm

theorem openings_alike (same : Alike x y) : openings x = openings y := by
  induction same with
  | nil => rfl
  | keep c same ih =>
      have here := openingsHere_congr fun opening => (lowered_alike (same.keep c)).prefix_iff opening.letters
      rw [openings, openings, here, ih]
  | gap before after _ ih =>
      have absent : ∀ {gap : List Char}, Gap isLetter isInitial gap → '<' ∉ gap := fun isGap member =>
        absurd (isGap.inside _ member) (by decide)
      rw [openings_skip (absent before), openings_skip (absent after), ih]

end Openings

section Switching

variable {text : List Char}

theorem script_mem : .script ∈ openings text ↔ ∃ between tag back, text = between ++ tag ++ back ∧
    lowered tag = "<script".toList := by
  rw [mem_openings]
  constructor
  · intro stands
    obtain ⟨front, back, parts⟩ := stands
    obtain ⟨started, after, rfl, same, _⟩ := List.map_eq_append_iff.mp parts.symm
    obtain ⟨between, tag, rfl, _, tagged⟩ := List.map_eq_append_iff.mp same
    exact ⟨between, tag, after, rfl, tagged⟩
  · intro parts
    obtain ⟨between, tag, back, rfl, tagged⟩ := parts
    refine ⟨lowered between, lowered back, ?_⟩
    have word : Opening.word .script = lowered tag := tagged.symm
    simp [word, lowered]

theorem prefix_lowered {word : List Char} (below : (word.all fun c => decide (c.toNat < 97)) = true)
    (starts : word <+: lowered text) : word <+: text := by
  induction word generalizing text with
  | nil => exact List.nil_prefix
  | cons d word ih =>
      rw [List.all_cons, Bool.and_eq_true, decide_eq_true_iff] at below
      obtain ⟨here, later⟩ := below
      cases text with
      | nil => exact starts
      | cons c text =>
          obtain ⟨same, behind⟩ := List.cons_prefix_cons.mp starts
          exact List.cons_prefix_cons.mpr ⟨(toLower_below here same.symm).symm, ih later behind⟩

theorem comment_here (starts : .comment ∈ openingsHere text) :
    ∃ back, text = "<!--".toList ++ back ∧ openings text = openingsHere text ++ openings back := by
  obtain ⟨back, rfl⟩ := prefix_lowered (by decide) (mem_openingsHere.mp starts)
  have behind : openings ("!--".toList ++ back) = openings back := openings_skip (by decide) back
  exact ⟨back, rfl, congrArg (openingsHere _ ++ ·) behind⟩

theorem script_apart (starts : .comment ∈ openingsHere text) : .script ∉ openingsHere text := by
  intro other
  have apart : ¬Opening.word .comment <+: Opening.word .script ∧ ¬Opening.word .script <+: Opening.word .comment := by
    decide
  rcases List.prefix_or_prefix_of_prefix (mem_openingsHere.mp starts) (mem_openingsHere.mp other) with inside | beyond
  · exact apart.1 inside
  · exact apart.2 beyond

theorem openings_suffix (front back : List Char) : (openings back).Sublist (openings (front ++ back)) := by
  induction front with
  | nil => exact List.Sublist.refl _
  | cons c front ih => exact ih.trans (List.sublist_append_right _ _)

theorem switches_of_openings (before : [.comment, .script].Sublist (openings text)) : Switches text := by
  induction text with
  | nil => cases before
  | cons c text ih =>
      obtain ⟨here, later, parts, atStart, behind⟩ := List.sublist_append_iff.mp before
      cases here with
      | nil =>
          subst parts
          obtain ⟨front, between, tag, back, rfl, tagged⟩ := ih behind
          exact ⟨c :: front, between, tag, back, rfl, tagged⟩
      | cons first here =>
          obtain ⟨rfl, same⟩ := List.cons.inj parts
          have starts : .comment ∈ openingsHere (c :: text) := atStart.subset List.mem_cons_self
          have next : .script ∈ openings (c :: text) := before.subset (by decide)
          obtain ⟨rest, whole, split⟩ := comment_here starts
          rw [split, List.mem_append, or_iff_right (script_apart starts)] at next
          obtain ⟨between, tag, back, rfl, tagged⟩ := script_mem.mp next
          exact ⟨[], between, tag, back, by rw [whole]; simp, tagged⟩

theorem switches_iff : Switches text ↔ [.comment, .script].Sublist (openings text) := by
  constructor
  · intro switches
    obtain ⟨front, between, tag, back, rfl, tagged⟩ := switches
    have parts : front ++ "<!--".toList ++ between ++ tag ++ back = front ++ ("<!--".toList ++ (between ++ tag ++ back)) := by
      simp only [List.append_assoc]
    have starts : .comment ∈ openingsHere ("<!--".toList ++ (between ++ tag ++ back)) :=
      mem_openingsHere.mpr ⟨lowered (between ++ tag ++ back), rfl⟩
    have next : .script ∈ openings (between ++ tag ++ back) := script_mem.mpr ⟨between, tag, back, rfl, tagged⟩
    have behind : openings ("!--".toList ++ (between ++ tag ++ back)) = openings (between ++ tag ++ back) :=
      openings_skip (by decide) _
    rw [parts]
    apply List.Sublist.trans _ (openings_suffix front _)
    exact (List.singleton_sublist.mpr starts).append (List.singleton_sublist.mpr (behind ▸ next))
  · exact switches_of_openings

end Switching

section Replacing

variable {opening : Opening} {new text : List Char}

-- Data stand between characters that no marker and no opening has.
structure Walled (text : List Char) : Prop where
  first : ∃ c more, text = c :: more ∧ isLetter c = false
  last : ∃ c before, text = before ++ [c] ∧ isLetter c = false

theorem Walled.openings_append (walled : Walled new) (back : List Char) :
    openings (new ++ back) = openings new ++ openings back := by
  obtain ⟨c, before, rfl, foreign⟩ := walled.last
  rw [List.append_assoc, List.singleton_append, openings_break foreign, openings_break foreign, openings,
    List.append_nil]

theorem prefix_replaceAll (walled : Walled new) (marker : Marker) (text word : List Char)
    (letters : ∀ c ∈ word, isLetter c = true) (none : '_' ∉ word) :
    word <+: lowered (replaceAll marker.word new text) ↔ word <+: lowered text := by
  induction text using pattern_induction marker.word_filled generalizing word with
  | nil => rw [replaceAll]
  | here text _ =>
      obtain ⟨c, more, rfl, foreign⟩ := walled.first
      obtain ⟨rest, parts⟩ := marker.word_first
      rw [replaceAll_here marker.word_filled, parts]
      cases word with
      | nil => simp
      | cons first word =>
          apply iff_of_false
          · intro starts
            have same := (List.cons_prefix_cons.mp starts).1
            rw [letter_upper foreign] at same
            rw [← same, letters first List.mem_cons_self] at foreign
            cases foreign
          · intro starts
            have same := (List.cons_prefix_cons.mp starts).1
            apply none
            rw [same]
            exact List.mem_cons_self
  | other c text absent ih =>
      rw [replaceAll_other absent]
      cases word with
      | nil => simp
      | cons first word =>
          have later := ih word (List.forall_mem_cons.mp letters).2 (fun member => none (List.mem_cons_of_mem _ member))
          exact Iff.trans List.cons_prefix_cons ((and_congr_right' later).trans List.cons_prefix_cons.symm)

-- Replacing adds no openings but those of what is put in.
theorem openings_replaceAll (walled : Walled new) (marker : Marker) (text : List Char)
    (member : opening ∈ openings (replaceAll marker.word new text)) : opening ∈ openings new ∨ opening ∈ openings text := by
  induction text using pattern_induction marker.word_filled with
  | nil =>
      rw [replaceAll] at member
      exact .inr member
  | here text ih =>
      rw [replaceAll_here marker.word_filled, walled.openings_append, List.mem_append] at member
      rcases member with inNew | behind
      · exact .inl inNew
      · apply (ih behind).imp_right
        intro inText
        have plain : '<' ∉ marker.word := by cases marker <;> decide
        rwa [openings_skip plain]
  | other c text absent ih =>
      have none : ∀ opening : Opening, '_' ∉ opening.word := by
        intro opening
        cases opening <;> decide
      have here : openingsHere (replaceAll marker.word new (c :: text)) = openingsHere (c :: text) := by
        apply openingsHere_congr
        intro opening
        exact prefix_replaceAll walled marker (c :: text) opening.word opening.letters (none opening)
      rw [replaceAll_other absent] at member here
      rw [openings, here, List.mem_append] at member
      rw [openings, List.mem_append]
      rcases member with atStart | later
      · exact .inr (.inl atStart)
      · exact (ih later).imp_right .inr

end Replacing

end Triage.Page
