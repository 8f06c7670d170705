import Mathlib.Data.List.Basic
import Triage.Datum.Display
import Triage.Datum.Likeness

namespace Triage.Datum

variable {name : Datum} {names more others : List Datum}

theorem keyForm_eq_text : keyForm d = .text s ↔ d = .text s := by
  cases d with
  | real x =>
      simp only [keyForm]
      split <;> simp
  | _ => simp [keyForm]

theorem exists_text (text : name.isText = true) : ∃ s, name = .text s := by
  cases name with
  | text s => exact ⟨s, rfl⟩
  | _ => cases text

theorem isKey_text (text : name.isText = true) : name.isKey = true := by
  obtain ⟨s, rfl⟩ := exists_text text
  rfl

theorem writable_text (text : name.isText = true) : name.writable = true := by
  obtain ⟨s, rfl⟩ := exists_text text
  rfl

theorem sameKey_text (text : name.isText = true) (other : Datum) : sameKey other name = true ↔ other = name := by
  obtain ⟨s, rfl⟩ := exists_text text
  rw [sameKey, beq_iff_eq]
  exact keyForm_eq_text

theorem hasKey_text (text : name.isText = true) (names : List Datum) : hasKey names name = true ↔ name ∈ names := by
  simp [hasKey, sameKey_text text]

theorem mem_union (texts : ∀ name ∈ more, name.isText = true) (names : List Datum) :
    name ∈ union names more ↔ name ∈ names ∨ name ∈ more := by
  induction more generalizing names with
  | nil => simp [union]
  | cons first more ih =>
      obtain ⟨here, later⟩ := List.forall_mem_cons.mp texts
      have step : union names (first :: more) =
          union (if hasKey names first then names else names ++ [first]) more := rfl
      rw [step, ih later, List.mem_cons]
      by_cases known : first ∈ names
      · rw [if_pos ((hasKey_text here names).mpr known)]
        constructor
        · rintro (old | new)
          · exact Or.inl old
          · exact Or.inr (Or.inr new)
        · rintro (old | rfl | new)
          · exact Or.inl old
          · exact Or.inl known
          · exact Or.inr new
      · rw [if_neg (mt (hasKey_text here names).mp known), List.mem_append, List.mem_singleton, or_assoc]

theorem mem_distinct (texts : ∀ name ∈ names, name.isText = true) : name ∈ distinct names ↔ name ∈ names := by
  rw [distinct, mem_union texts]
  simp

theorem mem_minus (texts : ∀ name ∈ names, name.isText = true) (others : List Datum) :
    name ∈ minus names others ↔ name ∈ names ∧ name ∉ others := by
  rw [minus, List.mem_filter, Bool.not_eq_true', Bool.eq_false_iff, Ne]
  refine and_congr_right fun member => ?_
  rw [hasKey_text (texts name member)]

theorem likeness_text (text : name.isText = true) (other : Datum) : name.likeness other = .alike ↔ other = name := by
  have same : sameKey name other = true ↔ other = name := by
    rw [sameKey, Bool.beq_comm]
    exact sameKey_text text other
  obtain ⟨s, rfl⟩ := exists_text text
  have compared : (Datum.text s).likeness other = .ofBool (sameKey (.text s) other) := by simp [likeness]
  rw [← same, compared]
  cases sameKey (.text s) other <;> simp [Likeness.ofBool]

theorem setField_new {fields : List (Datum × α)} (text : name.isText = true) (new : name ∉ fields.map Prod.fst)
    (value : α) : setField fields name value = fields ++ [(name, value)] := by
  induction fields with
  | nil => rfl
  | cons field fields ih =>
      obtain ⟨other, known⟩ := field
      rw [List.map_cons, List.mem_cons, not_or] at new
      have unlike : ¬sameKey other name = true := by
        rw [sameKey_text text]
        exact fun same => new.1 same.symm
      rw [setField, if_neg unlike, ih new.2]
      rfl

theorem foldl_setField {known fields : List (Datum × α)} (texts : ∀ field ∈ fields, field.1.isText = true)
    (distinct : ((known ++ fields).map Prod.fst).Nodup) :
    fields.foldl (fun all (key, value) => setField all key value) known = known ++ fields := by
  induction fields generalizing known with
  | nil => simp
  | cons field fields ih =>
      obtain ⟨name, value⟩ := field
      obtain ⟨here, later⟩ := List.forall_mem_cons.mp texts
      have new : name ∉ known.map Prod.fst := by
        rw [List.map_append, List.map_cons, List.nodup_append] at distinct
        exact fun member => distinct.2.2 name member name (List.mem_cons_self ..) rfl
      calc ((name, value) :: fields).foldl (fun all (key, value) => setField all key value) known
        _ = fields.foldl (fun all (key, value) => setField all key value) (known ++ [(name, value)]) := by
            rw [List.foldl_cons]
            simp only [setField_new here new]
        _ = known ++ (name, value) :: fields := by
            rw [ih later (by simpa using distinct), List.append_assoc]
            rfl

end Triage.Datum
