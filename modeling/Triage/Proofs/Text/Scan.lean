import Triage.Text.Word

namespace Triage.Text

def firstHit (step : σ → Char → σ) (hit : σ → List Char → Option β) (state : σ) :
    List Char → Option (List Char × β)
  | [] => none
  | c :: text =>
      match hit state (c :: text) with
      | some found => some ([], found)
      | none => (firstHit step hit (step state c) text).map fun (passed, found) => (c :: passed, found)

variable {step : σ → Char → σ} {hit : σ → List Char → Option β}

theorem firstHit_eq_none : firstHit step hit state text = none ↔
    ∀ front c back, text = front ++ c :: back → hit (front.foldl step state) (c :: back) = none := by
  induction text generalizing state with
  | nil => simp [firstHit]
  | cons first text ih =>
      cases here : hit state (first :: text) with
      | some found =>
          simp only [firstHit, here, reduceCtorEq, false_iff]
          intro missed
          have nothing := missed [] first text rfl
          simp [here] at nothing
      | none =>
          simp only [firstHit, here, Option.map_eq_none_iff, ih]
          constructor
          · intro missed front c back parts
            cases front with
            | nil =>
                cases parts
                exact here
            | cons next front =>
                cases parts
                exact missed front c back rfl
          · intro missed front c back parts
            exact missed (first :: front) c back (by rw [parts, List.cons_append])

theorem firstHit_parts (found : firstHit step hit state text = some (front, value)) :
    ∃ c back, text = front ++ c :: back ∧ hit (front.foldl step state) (c :: back) = some value := by
  induction text generalizing state front with
  | nil => simp [firstHit] at found
  | cons first text ih =>
      unfold firstHit at found
      split at found
      · rename_i result here
        cases found
        exact ⟨first, text, rfl, here⟩
      · simp only [Option.map_eq_some_iff, Prod.exists, Prod.mk.injEq] at found
        obtain ⟨passed, result, later, rfl, rfl⟩ := found
        obtain ⟨c, back, rfl, there⟩ := ih later
        exact ⟨c, back, rfl, there⟩

theorem firstHit_missed (found : firstHit step hit state (front ++ rest) = some (front, value))
    (parts : front = earlier ++ c :: more) : hit (earlier.foldl step state) (c :: more ++ rest) = none := by
  induction front generalizing state earlier with
  | nil => simp at parts
  | cons first front ih =>
      rw [List.cons_append] at found
      unfold firstHit at found
      split at found
      · cases found
      · rename_i missed
        obtain ⟨⟨passed, result⟩, later, same⟩ := Option.map_eq_some_iff.mp found
        cases same
        cases earlier with
        | nil =>
            cases parts
            exact missed
        | cons next earlier =>
            cases parts
            exact @ih (step state first) earlier later rfl

theorem firstHit_append (missed : ∀ earlier c more, front = earlier ++ c :: more →
      hit (earlier.foldl step state) (c :: more ++ back) = none) :
    firstHit step hit state (front ++ back) =
      (firstHit step hit (front.foldl step state) back).map fun (passed, found) => (front ++ passed, found) := by
  induction front generalizing state with
  | nil =>
      cases firstHit step hit state back <;> simp
  | cons first front ih =>
      have here := missed [] first front rfl
      have later := @ih (step state first) fun earlier c more parts =>
        missed (first :: earlier) c more (by rw [parts, List.cons_append])
      simp only [List.foldl_nil, List.cons_append] at here
      simp only [List.cons_append, firstHit, here, later, Option.map_map, List.foldl_cons]
      rfl

theorem firstHit_here (here : hit state text = some found) (filled : text ≠ []) :
    firstHit step hit state text = some ([], found) := by
  cases text with
  | nil => exact absurd rfl filled
  | cons c text => simp [firstHit, here]

end Triage.Text
