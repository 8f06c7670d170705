import Triage.Proofs.Json.Soften
import Triage.Proofs.Page.Openings

namespace Triage.Page
open Triage.Text

abbrev IsGap (text : List Char) : Prop := Gap isLetter isInitial text

abbrev Inside (text : List Char) : Prop := Letterless isInitial text

def rows (texts : List (List Char)) : List Char := texts.flatMap (· ++ ['"'])

theorem rows_append (front back : List (List Char)) : rows (front ++ back) = rows front ++ rows back :=
  List.flatMap_append

section Escapes

theorem letter_range (isLetter : isLetter c = true) : 0x21 ≤ c.toNat ∧ c.toNat ≤ 0x7E ∧ c.toNat ≠ 0x22 ∧ c.toNat ≠ 0x5C := by
  rw [Page.isLetter, Bool.or_eq_true, List.contains_iff_mem] at isLetter
  rcases isLetter with capital | small
  · have range := Json.capital_range capital
    omega
  · have each : ("<!-script".toList.all fun c =>
        decide (0x21 ≤ c.toNat ∧ c.toNat ≤ 0x7E ∧ c.toNat ≠ 0x22 ∧ c.toNat ≠ 0x5C)) = true := by decide
    exact of_decide_eq_true (List.all_eq_true.mp each c small)

theorem initial_letter (isInitial : isInitial c = true) : isLetter c = true := by
  rw [Page.isInitial, Bool.or_eq_true, beq_iff_eq, beq_iff_eq] at isInitial
  rcases isInitial with rfl | rfl
  · rfl
  · rfl

theorem initial_foreign (foreign : isLetter c = false) : isInitial c = false := by
  rw [Bool.eq_false_iff] at foreign ⊢
  exact fun initial => foreign (initial_letter initial)

theorem unitEscape_gap (unit : Nat) : IsGap (Json.unitEscape unit) := by
  have digit : ∀ n < 16, isInitial (hexDigit .lower n) = false := by decide
  refine ⟨⟨'\\', _, rfl, rfl⟩, ?_⟩
  intro c member
  rcases Json.mem_unitEscape member with rfl | rfl | ⟨n, small, rfl⟩
  · rfl
  · rfl
  · exact digit n small

theorem escapedChar_gap (c : Char) : Json.escapedChar c = [c] ∨
    isLetter c = false ∧ isInitial c = false ∧ IsGap (Json.escapedChar c) := by
  by_cases letter : isLetter c = true
  · have range := letter_range letter
    exact .inl (Json.escapedChar_visible (by omega) range.2.2.1 range.2.2.2)
  · have foreign : isLetter c = false := Bool.eq_false_iff.mpr letter
    have inside := initial_foreign foreign
    have marks : (Json.shortMarks.all fun mark => decide (isInitial mark = false)) = true := by decide
    have escapes := Json.escapes_escapedChar c
    generalize Json.escapedChar c = written at escapes ⊢
    cases escapes with
    | @short mark known escape hidden =>
        have plain : isInitial mark = false := of_decide_eq_true (List.all_eq_true.mp marks mark known)
        exact .inr ⟨foreign, inside, ⟨_, _, rfl, rfl⟩, letterless_cons.mpr ⟨rfl, letterless_cons.mpr ⟨plain, letterless_nil⟩⟩⟩
    | plain => exact .inl rfl
    | unit => exact .inr ⟨foreign, inside, unitEscape_gap _⟩
    | halves => exact .inr ⟨foreign, inside, (unitEscape_gap _).append (unitEscape_gap _).inside⟩

theorem escaped_alike (text : List Char) : Alike (text.flatMap Json.escapedChar) text := SameWords.flatMap escapedChar_gap text

theorem writeText_alike (text : List Char) : Alike (Json.writeText text) ('"' :: rows [text]) := by
  have closed := (escaped_alike text).append (.refl ['"'])
  have whole := closed.keep '"'
  simpa [Json.writeText, rows] using whole

theorem slash_alike (same : Alike ('/' :: x) y) : Alike ('\\' :: '/' :: x) y := by
  generalize parts : '/' :: x = z at same
  cases same with
  | nil => cases parts
  | @keep x y c same =>
      cases parts
      have escape : IsGap ['\\', '/'] := ⟨⟨_, _, rfl, rfl⟩, by decide⟩
      exact same.gap escape (.single rfl rfl)
  | @gap front back x y before after same =>
      have escape : IsGap ('\\' :: front) := ⟨⟨_, _, rfl, rfl⟩, letterless_cons.mpr ⟨rfl, before.inside⟩⟩
      exact same.gap escape after

theorem soften_alike (same : Alike x y) : Alike (Json.soften x) y := by
  induction same with
  | nil =>
      rw [Json.soften_nil]
      exact .nil
  | @keep x y c same ih =>
      rcases Json.soften_step c x with ⟨rfl, tail, rfl⟩ | passed
      · rw [Json.soften_cons (by decide)] at ih
        rw [Json.soften_tag]
        exact (slash_alike ih).keep '<'
      · rw [passed]
        exact ih.keep c
  | @gap front back x y before after same ih =>
      have passes : Passes "</".toList front := Passes.lacking fun member => absurd (before.inside _ member) (by decide)
      rw [Json.soften, replaceAll_passes passes]
      exact ih.gap before after

end Escapes

section Written

variable {d : Datum} {texts : List (List Char)} {written x y : List Char}

def Follows (x y : List Char) : Prop := ∀ gap, IsGap gap → Alike (gap ++ x) ('"' :: y)

theorem Follows.nil : Follows [] [] := by
  intro gap isGap
  exact SameWords.gap isGap (.single rfl rfl) .nil

theorem Follows.skip (follows : Follows x y) (inside : Inside written) : Follows (written ++ x) y := by
  intro gap isGap
  rw [← List.append_assoc]
  exact follows _ (isGap.append inside)

def Row (texts : List (List Char)) (written : List Char) : Prop := ∀ x y, Follows x y → Follows (written ++ x) (rows texts ++ y)

theorem Row.plain (inside : Inside written) : Row [] written := fun _ _ follows => follows.skip inside

theorem Row.skip (row : Row texts written) (inside : Inside front) : Row texts (front ++ written) := by
  intro x y follows
  rw [List.append_assoc]
  exact (row x y follows).skip inside

theorem Row.append (first : Row texts written) (second : Row others back) : Row (texts ++ others) (written ++ back) := by
  intro x y follows
  rw [List.append_assoc, rows_append, List.append_assoc]
  exact first _ _ (second x y follows)

theorem Row.text (text : List Char) : Row [text] (Json.writeText text) := by
  intro x y follows gap isGap
  have mark : IsGap ['"'] := .single rfl rfl
  have behind := (escaped_alike text).append (follows ['"'] mark)
  have whole := behind.gap (isGap.append mark.inside) mark
  simpa [Json.writeText, rows] using whole

theorem Row.flatten {items : List (List Char)} {texts : List (List (List Char))} (each : List.Forall₂ Row texts items) :
    Row texts.flatten items.flatten := by
  induction each with
  | nil => exact .plain letterless_nil
  | cons here _ ih => exact here.append ih

theorem lineBreak_inside (layout : Json.Layout) : Inside layout.lineBreak := by
  intro c member
  rcases Json.mem_lineBreak member with rfl | rfl
  · rfl
  · rfl

theorem colon_inside (layout : Json.Layout) : Inside layout.colon := by
  cases layout with
  | compact => decide
  | indented _ => exact (by decide : Inside [':', ' '])

theorem Row.enclosed {items : List (List Char)} {texts : List (List (List Char))} (layout : Json.Layout)
    (opens closes : Char) (inside : isInitial closes = false) (each : List.Forall₂ Row texts items) :
    ∃ within, Json.enclosed layout opens closes items = opens :: within ∧ Row texts.flatten within := by
  have last : Inside [closes] := letterless_cons.mpr ⟨inside, letterless_nil⟩
  cases each with
  | nil => exact ⟨[closes], rfl, .plain last⟩
  | @cons text item texts items here later =>
      have others : List.Forall₂ Row texts (items.map fun next => ',' :: layout.inner.lineBreak ++ next) := by
        rw [List.forall₂_map_right_iff]
        apply later.imp
        intro text item row
        exact row.skip (letterless_cons.mpr ⟨rfl, lineBreak_inside _⟩)
      have behind : Row [] (layout.lineBreak ++ [closes]) := .plain (letterless_append.mpr ⟨lineBreak_inside _, last⟩)
      have whole := ((here.skip (lineBreak_inside layout.inner)).append (Row.flatten others)).append behind
      refine ⟨_, ?_, by simpa using whole⟩
      simp [Json.enclosed, List.flatMap_def]

def Shows (texts : List (List Char)) (d : Datum) : Prop := ∀ layout, Row texts (Json.write layout d)

theorem Shows.text (s : String) : Shows [s.toList] (.text s) := fun _ => .text s.toList

theorem Shows.bool (b : Bool) : Shows [] (.bool b) := by
  intro layout
  cases b with
  | false => exact .plain (by decide : Inside "false".toList)
  | true => exact .plain (by decide : Inside "true".toList)

theorem Shows.constant {s : String} (inside : Inside (Json.writeText s.toList)) : Shows [] (.text s) :=
  fun _ => .plain inside

theorem Shows.list_within {items : List Datum} {texts : List (List (List Char))} (each : List.Forall₂ Shows texts items)
    (layout : Json.Layout) : ∃ within, Json.write layout (.list items) = '[' :: within ∧ Row texts.flatten within := by
  have rows : List.Forall₂ Row texts (items.map (Json.write layout.inner)) := by
    rw [List.forall₂_map_right_iff]
    exact each.imp fun _ _ shows => shows layout.inner
  obtain ⟨within, parts, row⟩ := Row.enclosed layout '[' ']' rfl rows
  refine ⟨within, ?_, row⟩
  rw [Json.write, Json.writeItems_map]
  exact parts

structure ShowsField (texts : List (List Char)) (field : String × Datum) : Prop where
  key : Inside (Json.writeText field.1.toList)
  value : Shows texts field.2

theorem Shows.field (key : String) (inside : Inside (Json.writeText key.toList)) (shows : Shows texts d) :
    ShowsField texts (key, d) := ⟨inside, shows⟩

theorem Shows.record {fields : List (String × Datum)} {texts : List (List (List Char))}
    (each : List.Forall₂ ShowsField texts fields) : Shows texts.flatten (.record fields) := by
  intro layout
  have rows : List.Forall₂ Row texts (fields.map fun field => Json.writeField layout.inner (.text field.1, field.2)) := by
    rw [List.forall₂_map_right_iff]
    apply each.imp
    intro texts field shows
    exact (shows.value layout.inner).skip (letterless_append.mpr ⟨shows.key, colon_inside _⟩)
  obtain ⟨within, parts, row⟩ := Row.enclosed layout '\x7b' '\x7d' rfl rows
  have whole : Json.write layout (.record fields) = '\x7b' :: within := by
    rw [Datum.record, Json.write, Json.writeFields_map, List.map_map]
    exact parts
  rw [whole]
  exact row.skip (by decide : Inside ['\x7b'])

end Written

end Triage.Page
