import Mathlib.Data.List.Sort
import Mathlib.Data.String.Basic
import Triage.Proofs.Datum.Names

namespace Triage.Datum

variable {name other : Datum} {names more others : List Datum} {property wider : Datum → Prop}

theorem hasKey_iff : hasKey names name = true ↔ ∃ other ∈ names, other.keyForm = name.keyForm := by
  simp [hasKey, sameKey]

theorem hasKey_append : hasKey (names ++ more) name = (hasKey names name || hasKey more name) := by
  simp [hasKey]

section Unions

theorem union_cons (names : List Datum) (first : Datum) (more : List Datum) :
    union names (first :: more) = union (if hasKey names first then names else names ++ [first]) more := rfl

theorem hasKey_congr (same : name.keyForm = other.keyForm) : hasKey names name = hasKey names other := by
  rw [Bool.eq_iff_iff, hasKey_iff, hasKey_iff, same]

theorem hasKey_union (names more : List Datum) (name : Datum) :
    hasKey (union names more) name = true ↔ hasKey names name = true ∨ hasKey more name = true := by
  induction more generalizing names with
  | nil => simp [union, hasKey]
  | cons first more ih =>
      have front : hasKey (first :: more) name = true ↔ first.keyForm = name.keyForm ∨ hasKey more name = true := by
        simp [hasKey_iff]
      rw [union_cons, ih, front]
      split
      · rename_i known
        constructor
        · intro either
          exact either.imp_right .inr
        · intro either
          rcases either with old | same | new
          · exact .inl old
          · exact .inl ((hasKey_congr same).symm.trans known)
          · exact .inr new
      · simp [hasKey_append, hasKey_iff, or_assoc]

theorem mem_of_mem_union (member : name ∈ union names more) : name ∈ names ∨ name ∈ more := by
  induction more generalizing names with
  | nil => exact .inl member
  | cons first more ih =>
      rw [union_cons] at member
      rcases ih member with old | new
      · split at old
        · exact .inl old
        · rcases List.mem_append.mp old with known | here
          · exact .inl known
          · rw [List.mem_singleton.mp here]
            exact .inr List.mem_cons_self
      · exact .inr (List.mem_cons_of_mem first new)

theorem nodup_union (distinct : (names.map keyForm).Nodup) (more : List Datum) : ((union names more).map keyForm).Nodup := by
  induction more generalizing names with
  | nil => exact distinct
  | cons first more ih =>
      rw [union_cons]
      apply ih
      split
      · exact distinct
      · rename_i new
        have apart : first.keyForm ∉ names.map keyForm := by
          rw [List.mem_map]
          exact fun known => new (hasKey_iff.mpr known)
        rw [List.map_append, List.map_singleton, ← List.concat_eq_append]
        exact List.Nodup.concat apart distinct

theorem nodup_distinct (names : List Datum) : (distinct names).Nodup :=
  List.Nodup.of_map keyForm (@nodup_union [] List.nodup_nil names)

end Unions

-- The names are texts, in order and each once, and they are just those with the property.
structure Lists (names : List Datum) (property : Datum → Prop) : Prop where
  ordered : ∃ texts : List String, names = texts.map .text ∧ texts.Pairwise (· < ·)
  members : ∀ name, name ∈ names ↔ property name

namespace Lists

theorem congr (lists : Lists names property) (same : ∀ name, property name ↔ wider name) : Lists names wider :=
  ⟨lists.ordered, fun name => (lists.members name).trans (same name)⟩

theorem unique (first : Lists names property) (second : Lists others property) : names = others := by
  obtain ⟨texts, rfl, sorted⟩ := first.ordered
  obtain ⟨more, rfl, sortedMore⟩ := second.ordered
  have member : ∀ (texts : List String) s, Datum.text s ∈ texts.map Datum.text ↔ s ∈ texts := by simp
  have same : texts = more := by
    apply sorted.eq_of_mem_iff sortedMore
    intro s
    rw [← member, first.members, ← second.members, member]
  rw [same]

theorem nodup (lists : Lists names property) : names.Nodup := by
  obtain ⟨texts, rfl, sorted⟩ := lists.ordered
  exact sorted.nodup.map fun _ _ same => Datum.text.inj same

theorem texts (lists : Lists names property) : ∀ name ∈ names, name.isText = true := by
  obtain ⟨texts, rfl, _⟩ := lists.ordered
  intro name member
  obtain ⟨s, _, rfl⟩ := List.mem_map.mp member
  rfl

end Lists

theorem exists_texts (texts : ∀ name ∈ names, name.isText = true) : ∃ list : List String, names = list.map .text := by
  induction names with
  | nil => exact ⟨[], rfl⟩
  | cons name names ih =>
      obtain ⟨here, later⟩ := List.forall_mem_cons.mp texts
      obtain ⟨s, rfl⟩ := exists_text here
      obtain ⟨list, rfl⟩ := ih later
      exact ⟨s :: list, rfl⟩

theorem sort?_lists (texts : ∀ name ∈ names, name.isText = true) (distinct : names.Nodup) :
    ∃ sorted, sort? names = some sorted ∧ Lists sorted (· ∈ names) := by
  obtain ⟨list, rfl⟩ := exists_texts texts
  unfold sort?
  split
  · rename_i short
    rw [List.length_map] at short
    refine ⟨_, rfl, ⟨list, rfl, ?_⟩, fun _ => Iff.rfl⟩
    match list, short with
    | [], _ => exact .nil
    | [s], _ => exact List.pairwise_singleton _ s
  · rw [if_pos (List.all_eq_true.mpr texts)]
    have sorted : (list.map Datum.text).mergeSort textLe = (list.mergeSort (· ≤ ·)).map .text := by
      apply Eq.symm
      apply List.map_mergeSort
      intro s _ t _
      rfl
    refine ⟨_, rfl, ⟨_, sorted, ?_⟩, fun name => (List.mergeSort_perm _ _).mem_iff⟩
    have nodup : (list.mergeSort (· ≤ ·)).Nodup := (List.mergeSort_perm list _).nodup_iff.mpr (distinct.of_map Datum.text)
    exact (List.pairwise_mergeSort' (· ≤ ·) list).imp₂ (fun _ _ le unlike => lt_of_le_of_ne le unlike) nodup

end Triage.Datum
