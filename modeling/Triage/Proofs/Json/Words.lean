import Triage.Proofs.Json.RoundTrip
import Triage.Proofs.Text.Runs

namespace Triage
open Triage.Text

namespace Datum

mutual

def holds (word : List Char) : Datum → Bool
  | .text s => occurs word s.toList
  | .list items => holdsItems word items
  | .object fields => holdsFields word fields
  | _ => false

def holdsItems (word : List Char) : List Datum → Bool
  | [] => false
  | item :: items => holds word item || holdsItems word items

def holdsFields (word : List Char) : List (Datum × Datum) → Bool
  | [] => false
  | (key, value) :: fields => (holds word key || holds word value) || holdsFields word fields

end

theorem holdsItems_iff : holdsItems word items = true ↔ ∃ item ∈ items, item.holds word = true := by
  induction items with
  | nil => simp [holdsItems]
  | cons item items ih => simp [holdsItems, ih]

theorem holdsFields_iff {fields : List (Datum × Datum)} :
    holdsFields word fields = true ↔ ∃ field ∈ fields, field.1.holds word = true ∨ field.2.holds word = true := by
  induction fields with
  | nil => simp [holdsFields]
  | cons field fields ih => simp [holdsFields, ih]

end Datum

namespace Json

def isCapital (c : Char) : Bool := c == '_' || c.isUpper

structure Capitals (word : List Char) : Prop where
  filled : word ≠ []
  letters : ∀ c ∈ word, isCapital c = true

variable {word : List Char}

theorem Capitals.foreign (capitals : Capitals word) (none : isCapital c = false) : c ∉ word := by
  intro member
  rw [capitals.letters c member] at none
  cases none

theorem Capitals.passes (capitals : Capitals word) (none : Letterless isCapital text) : Passes word text :=
  Passes.letterless capitals.letters capitals.filled none

theorem Capitals.absent (capitals : Capitals word) (none : Letterless isCapital text) : ¬word <:+: text := by
  have stands : word <:+: text ++ [] ↔ word <:+: [] := (capitals.passes none).infix_append
  rw [List.append_nil, List.infix_nil] at stands
  rw [stands]
  exact capitals.filled

theorem capital_range (capital : isCapital c = true) : 0x41 ≤ c.toNat ∧ c.toNat ≤ 0x5F ∧ c.toNat ≠ 0x5C := by
  rw [isCapital, Bool.or_eq_true, beq_iff_eq] at capital
  rcases capital with rfl | upper
  · decide
  · have bounds : 0x41 ≤ c.toNat ∧ c.toNat ≤ 0x5A := of_decide_eq_true upper
    omega

theorem escapedChar_visible (visible : 0x20 ≤ c.toNat ∧ c.toNat ≤ 0x7E) (mark : c.toNat ≠ 0x22) (escape : c.toNat ≠ 0x5C) :
    escapedChar c = [c] := by
  have escapes := escapes_escapedChar c
  generalize escapedChar c = written at escapes ⊢
  cases escapes with
  | short known escape hidden => omega
  | plain => rfl
  | unit small hidden => omega
  | halves large => omega

theorem escapedChar_capital (capital : isCapital c = true) : escapedChar c = [c] := by
  have range := capital_range capital
  exact escapedChar_visible (by omega) (by omega) range.2.2

theorem mem_hex (member : c ∈ hex .lower width n) : ∃ digit < 16, c = hexDigit .lower digit := by
  induction width generalizing n with
  | zero => cases member
  | succ width ih =>
      rw [hex, List.mem_append, List.mem_singleton] at member
      rcases member with earlier | rfl
      · exact ih earlier
      · exact ⟨n % 16, Nat.mod_lt n (by decide), rfl⟩

theorem mem_unitEscape (member : c ∈ unitEscape unit) :
    c = '\\' ∨ c = 'u' ∨ ∃ digit < 16, c = hexDigit .lower digit := by
  rw [unitEscape, List.mem_cons, List.mem_cons] at member
  exact member.imp_right (Or.imp_right mem_hex)

theorem unitEscape_plain (unit : Nat) : Letterless isCapital (unitEscape unit) := by
  have digit : ∀ n < 16, isCapital (hexDigit .lower n) = false := by decide
  intro c member
  rcases mem_unitEscape member with rfl | rfl | ⟨n, small, rfl⟩
  · rfl
  · rfl
  · exact digit n small

theorem escapedChar_plain (none : isCapital c = false) :
    escapedChar c ≠ [] ∧ Letterless isCapital (escapedChar c) := by
  have marks : (shortMarks.all fun mark => decide (isCapital mark = false)) = true := by decide
  have escapes := escapes_escapedChar c
  generalize escapedChar c = written at escapes ⊢
  cases escapes with
  | @short mark known escape hidden =>
      have plain : isCapital mark = false := of_decide_eq_true (List.all_eq_true.mp marks mark known)
      exact ⟨List.cons_ne_nil _ _, letterless_cons.mpr ⟨rfl, letterless_cons.mpr ⟨plain, letterless_nil⟩⟩⟩
  | plain => exact ⟨List.cons_ne_nil _ _, by simp [Letterless, none]⟩
  | unit => exact ⟨List.cons_ne_nil _ _, unitEscape_plain _⟩
  | halves => exact ⟨List.cons_ne_nil _ _, letterless_append.mpr ⟨unitEscape_plain _, unitEscape_plain _⟩⟩

theorem infix_writeText (capitals : Capitals word) (text rest : List Char) :
    word <:+: writeText text ++ rest ↔ word <:+: text ∨ word <:+: rest := by
  have parts : writeText text ++ rest = ['"'] ++ (text.flatMap escapedChar ++ '"' :: rest) := by simp [writeText]
  have escaped : word <:+: text.flatMap escapedChar ↔ word <:+: text :=
    (SameRuns.flatMap (fun _ => escapedChar_capital) (fun _ => escapedChar_plain) text).infix_iff
      capitals.letters capitals.filled
  rw [parts, (capitals.passes (by decide)).infix_append, infix_break (capitals.foreign rfl), escaped]

theorem lineBreak_plain (layout : Layout) : Letterless isCapital layout.lineBreak := by
  intro c member
  rcases mem_lineBreak member with rfl | rfl <;> rfl

theorem colon_plain (layout : Layout) : Letterless isCapital layout.colon := by
  cases layout with
  | compact => decide
  | indented _ => exact (by decide : Letterless isCapital [':', ' '])

theorem mem_integerText {n : Int} (member : c ∈ Datum.integerText n) : c = '-' ∨ isDigit c = true := by
  cases n with
  | ofNat n => exact .inr (decimal_digits n c member)
  | negSucc n =>
      rw [Datum.integerText_negative, List.mem_cons] at member
      exact member.imp_right (decimal_digits (n + 1) c)

theorem digit_low (digit : isDigit c = true) : c.toNat ≤ 0x39 := by
  rw [isDigit, Bool.and_eq_true, decide_eq_true_iff, decide_eq_true_iff] at digit
  exact digit.2

theorem integerText_plain (n : Int) : Letterless isCapital (Datum.integerText n) := by
  intro c member
  rcases mem_integerText member with rfl | digit
  · rfl
  · have low := digit_low digit
    rw [Bool.eq_false_iff]
    intro capital
    have high := (capital_range capital).1
    omega

def behindItem (layout : Layout) (closing : Char) (items : List (List Char)) : List Char :=
  items.flatMap (fun next => ',' :: layout.inner.lineBreak ++ next) ++ (layout.lineBreak ++ [closing])

theorem behindItem_head (layout : Layout) (last : isCapital closing = false) (items : List (List Char)) :
    ∃ c, (behindItem layout closing items).head? = some c ∧ isCapital c = false := by
  cases items with
  | cons item items => exact ⟨',', rfl, rfl⟩
  | nil =>
      cases layout with
      | compact => exact ⟨closing, rfl, last⟩
      | indented depth => exact ⟨'\n', rfl, rfl⟩

theorem behindItem_cons (layout : Layout) (closing : Char) (item : List Char) (items : List (List Char)) :
    behindItem layout closing (item :: items) =
      (',' :: layout.inner.lineBreak) ++ (item ++ behindItem layout closing items) := by
  simp [behindItem]

theorem infix_behindItem (capitals : Capitals word) (layout : Layout) (last : isCapital closing = false)
    (items : List (List Char)) : word <:+: behindItem layout closing items ↔ ∃ item ∈ items, word <:+: item := by
  induction items with
  | nil =>
      have ending : Letterless isCapital (layout.lineBreak ++ [closing]) := by simp [lineBreak_plain, last]
      simpa [behindItem] using capitals.absent ending
  | cons item items ih =>
      obtain ⟨c, fence, plain⟩ := behindItem_head layout last items
      have comma : Passes word (',' :: layout.inner.lineBreak) :=
        capitals.passes (letterless_cons.mpr ⟨rfl, lineBreak_plain _⟩)
      rw [behindItem_cons, comma.infix_append, infix_fence fence (capitals.foreign plain), ih,
        List.exists_mem_cons_iff]

theorem infix_enclosed (capitals : Capitals word) (layout : Layout) (first : isCapital opening = false)
    (last : isCapital closing = false) (items : List (List Char)) :
    word <:+: enclosed layout opening closing items ↔ ∃ item ∈ items, word <:+: item := by
  cases items with
  | nil =>
      have none : ¬word <:+: [opening, closing] := capitals.absent (by simp [first, last])
      simp [enclosed, none]
  | cons item items =>
      obtain ⟨c, fence, plain⟩ := behindItem_head layout last items
      have parts : enclosed layout opening closing (item :: items) =
          (opening :: layout.inner.lineBreak) ++ (item ++ behindItem layout closing items) := by
        simp [enclosed, behindItem]
      have bracket : Passes word (opening :: layout.inner.lineBreak) :=
        capitals.passes (letterless_cons.mpr ⟨first, lineBreak_plain _⟩)
      rw [parts, bracket.infix_append, infix_fence fence (capitals.foreign plain), infix_behindItem capitals layout last,
        List.exists_mem_cons_iff]

theorem infix_writeField (capitals : Capitals word) (layout : Layout) (text : key.isText = true) (value : Datum) :
    word <:+: writeField layout (key, value) ↔ key.holds word = true ∨ word <:+: write layout value := by
  obtain ⟨name, rfl⟩ := Datum.exists_text text
  have parts : writeField layout (.text name, value) =
      writeText name.toList ++ (layout.colon ++ write layout value) := List.append_assoc _ _ _
  have colon : Passes word layout.colon := capitals.passes (colon_plain layout)
  rw [parts, infix_writeText capitals, colon.infix_append, Datum.holds, occurs_iff]

-- The word stands in the JSON text of a datum, whichever way lines break, when one of its texts holds it.
theorem infix_write (capitals : Capitals word) (known : d.inJson = true) (fits : d.writable = true) (layout : Layout) :
    word <:+: write layout d ↔ d.holds word = true := by
  refine Datum.inJson_induction (motive := fun d => ∀ layout, word <:+: write layout d ↔ d.holds word = true)
    ?null ?bool ?int ?text ?list ?object d known fits layout
  case null =>
      intro layout
      have none : Letterless isCapital (write layout .null) := by rw [write]; decide
      exact iff_of_false (capitals.absent none) (by simp [Datum.holds])
  case bool =>
      intro b layout
      have none : Letterless isCapital (write layout (.bool b)) := by cases b <;> rw [write] <;> decide
      exact iff_of_false (capitals.absent none) (by simp [Datum.holds])
  case int =>
      intro n _ layout
      exact iff_of_false (capitals.absent (integerText_plain n)) (by simp [Datum.holds])
  case text =>
      intro s layout
      have written := infix_writeText capitals s.toList []
      rw [List.append_nil, List.infix_nil, or_iff_left capitals.filled] at written
      rw [write, written, Datum.holds, occurs_iff]
  case list =>
      intro items _ ih layout
      rw [write, writeItems_map, infix_enclosed capitals layout rfl rfl, Datum.holds, Datum.holdsItems_iff]
      simp only [List.mem_map, exists_exists_and_eq_and]
      exact exists_congr fun item => and_congr_right fun member => ih item member layout.inner
  case object =>
      intro fields known _ ih layout
      rw [write, writeFields_map, infix_enclosed capitals layout rfl rfl, Datum.holds, Datum.holdsFields_iff]
      simp only [List.mem_map, exists_exists_and_eq_and]
      refine exists_congr fun field => and_congr_right fun member => ?_
      rw [infix_writeField capitals layout.inner (known field member).1, ih field member]

end Json

end Triage
