import Mathlib.Data.List.Forall2

namespace Triage

variable {values : List α}

theorem bind_eq_ok {first : Except ε α} {next : α → Except ε β} :
    (first >>= next) = .ok result ↔ ∃ value, first = .ok value ∧ next value = .ok result := by
  cases first with
  | error fault =>
      constructor
      · intro accepted
        cases accepted
      · rintro ⟨value, accepted, _⟩
        cases accepted
  | ok value =>
      constructor
      · intro accepted
        exact ⟨value, rfl, accepted⟩
      · rintro ⟨_, ⟨⟩, accepted⟩
        exact accepted

theorem bind_eq_error {first : Except ε α} {next : α → Except ε β} :
    (first >>= next) = .error fault ↔
      first = .error fault ∨ ∃ value, first = .ok value ∧ next value = .error fault := by
  cases first with
  | error other =>
      constructor
      · intro failed
        cases failed
        exact Or.inl rfl
      · rintro (failed | ⟨_, accepted, _⟩)
        · cases failed
          rfl
        · cases accepted
  | ok value =>
      constructor
      · intro failed
        exact Or.inr ⟨value, rfl, failed⟩
      · rintro (failed | ⟨_, ⟨⟩, failed⟩)
        · cases failed
        · exact failed

theorem mapError_eq_ok {outcome : Except ε α} {wrap : ε → φ} :
    outcome.mapError wrap = .ok value ↔ outcome = .ok value := by
  cases outcome <;> simp [Except.mapError]

theorem mapError_eq_error {outcome : Except ε α} {wrap : ε → φ} :
    outcome.mapError wrap = .error fault ↔ ∃ cause, outcome = .error cause ∧ fault = wrap cause := by
  cases outcome <;> simp [Except.mapError, eq_comm]

theorem mapM_eq_ok {next : α → Except ε β} : values.mapM next = .ok results ↔
    List.Forall₂ (fun value result => next value = .ok result) values results := by
  induction values generalizing results with
  | nil =>
      constructor
      · intro accepted
        cases accepted
        exact .nil
      · intro pairs
        cases pairs
        rfl
  | cons value values ih =>
      rw [List.mapM_cons]
      constructor
      · intro accepted
        obtain ⟨result, here, accepted⟩ := bind_eq_ok.mp accepted
        obtain ⟨others, later, accepted⟩ := bind_eq_ok.mp accepted
        cases accepted
        exact .cons here (ih.mp later)
      · intro pairs
        cases pairs with
        | cons here later => exact bind_eq_ok.mpr ⟨_, here, bind_eq_ok.mpr ⟨_, ih.mpr later, rfl⟩⟩

theorem mapM_eq_error {next : α → Except ε β} : values.mapM next = .error fault ↔
    ∃ earlier failing later, values = earlier ++ failing :: later ∧
      (∀ value ∈ earlier, ∃ result, next value = .ok result) ∧ next failing = .error fault := by
  induction values with
  | nil =>
      constructor
      · intro failed
        cases failed
      · rintro ⟨earlier, failing, later, parts, _⟩
        simp at parts
  | cons value values ih =>
      rw [List.mapM_cons, bind_eq_error]
      constructor
      · rintro (here | ⟨result, here, failed⟩)
        · exact ⟨[], value, values, rfl, by simp, here⟩
        · rcases bind_eq_error.mp failed with failed | ⟨_, _, failed⟩
          · obtain ⟨earlier, failing, later, rfl, passed, there⟩ := ih.mp failed
            exact ⟨value :: earlier, failing, later, rfl, List.forall_mem_cons.mpr ⟨⟨result, here⟩, passed⟩, there⟩
          · cases failed
      · rintro ⟨earlier, failing, later, parts, passed, there⟩
        cases earlier with
        | nil =>
            cases parts
            exact Or.inl there
        | cons first earlier =>
            rw [List.cons_append, List.cons.injEq] at parts
            obtain ⟨rfl, parts⟩ := parts
            obtain ⟨⟨result, here⟩, passed⟩ := List.forall_mem_cons.mp passed
            exact Or.inr ⟨result, here, bind_eq_error.mpr
              (Or.inl (ih.mpr ⟨earlier, failing, later, parts, passed, there⟩))⟩

theorem mapM_total {next : α → Except ε β} (each : ∀ value ∈ values, ∃ result, next value = .ok result) :
    ∃ results, values.mapM next = .ok results := by
  cases outcome : values.mapM next with
  | ok results => exact ⟨results, rfl⟩
  | error fault =>
      obtain ⟨earlier, failing, later, rfl, _, failed⟩ := mapM_eq_error.mp outcome
      obtain ⟨result, accepted⟩ := each failing (by simp)
      cases accepted.symm.trans failed

theorem mapM_readable {next : α → Except ε β} :
    (∃ results, values.mapM next = .ok results) ↔ ∀ value ∈ values, ∃ result, next value = .ok result := by
  refine ⟨?_, mapM_total⟩
  rintro ⟨results, accepted⟩
  have pairs := mapM_eq_ok.mp accepted
  clear accepted
  induction pairs with
  | nil => simp
  | cons here _ ih => exact List.forall_mem_cons.mpr ⟨⟨_, here⟩, ih⟩

theorem mem_mapM {next : α → Except ε β} (accepted : values.mapM next = .ok results) :
    result ∈ results ↔ ∃ value ∈ values, next value = .ok result := by
  have pairs := mapM_eq_ok.mp accepted
  clear accepted
  induction pairs with
  | nil => simp
  | cons here _ ih => simp [here, ih, eq_comm]

-- Going through a list for its faults alone is reading it and forgetting what was read.
theorem forM_eq_mapM (values : List α) (next : α → Except ε Unit) :
    values.forM next = (values.mapM next).map fun _ => () := by
  induction values with
  | nil => rfl
  | cons value values ih =>
      have step : (value :: values).forM next = (next value >>= fun _ => values.forM next) := rfl
      rw [step, ih, List.mapM_cons]
      cases next value with
      | error fault => rfl
      | ok done => cases values.mapM next <;> rfl

theorem forM_map (values : List α) (f : α → β) (next : β → Except ε Unit) :
    (values.map f).forM next = values.forM fun value => next (f value) := by
  induction values with
  | nil => rfl
  | cons value values ih => exact congrArg (next (f value) >>= fun _ => ·) ih

theorem forM_eq_ok {next : α → Except ε Unit} :
    values.forM next = .ok () ↔ ∀ value ∈ values, next value = .ok () := by
  induction values with
  | nil => exact ⟨fun _ => by simp, fun _ => rfl⟩
  | cons value values ih =>
      have step : (value :: values).forM next = (next value >>= fun _ => values.forM next) := rfl
      rw [step, bind_eq_ok, List.forall_mem_cons]
      constructor
      · rintro ⟨⟨⟩, here, later⟩
        exact ⟨here, ih.mp later⟩
      · rintro ⟨here, later⟩
        exact ⟨(), here, ih.mpr later⟩

theorem forM_eq_error_mapM {next : α → Except ε Unit} :
    values.forM next = .error fault ↔ values.mapM next = .error fault := by
  rw [forM_eq_mapM]
  cases values.mapM next <;> simp [Except.map]

theorem forall_numbered {numbered : α × Nat → Prop} {property : α → Prop}
    (same : ∀ value ∈ values, ∀ number, numbered (value, number) ↔ property value) (start : Nat) :
    (∀ value ∈ values.zipIdx start, numbered value) ↔ ∀ value ∈ values, property value := by
  induction values generalizing start with
  | nil => simp
  | cons value values ih =>
      obtain ⟨here, later⟩ := List.forall_mem_cons.mp same
      rw [List.zipIdx_cons, List.forall_mem_cons, List.forall_mem_cons, here, ih later]

theorem zipIdx_cut : values.zipIdx start = earlier ++ (value, number) :: later ↔
    ∃ before after, values = before ++ value :: after ∧ earlier = before.zipIdx start ∧
      number = start + before.length ∧ later = after.zipIdx (number + 1) := by
  rw [List.zipIdx_eq_append_iff]
  constructor
  · rintro ⟨before, rest, rfl, rfl, tail⟩
    obtain ⟨first, after, rfl, here, rfl⟩ := List.zipIdx_eq_cons_iff.mp tail.symm
    cases here
    exact ⟨before, after, rfl, rfl, rfl, rfl⟩
  · rintro ⟨before, after, rfl, rfl, rfl, rfl⟩
    exact ⟨before, value :: after, rfl, rfl, rfl⟩

theorem mapM_numbered_eq_error {next : α × Nat → Except ε β} :
    (values.zipIdx start).mapM next = .error fault ↔
      ∃ earlier failing later, values = earlier ++ failing :: later ∧
        (∀ value ∈ earlier.zipIdx start, ∃ result, next value = .ok result) ∧
        next (failing, start + earlier.length) = .error fault := by
  rw [mapM_eq_error]
  constructor
  · rintro ⟨_, ⟨failing, number⟩, _, parts, passed, failed⟩
    obtain ⟨before, after, rfl, rfl, rfl, _⟩ := zipIdx_cut.mp parts
    exact ⟨before, failing, after, rfl, passed, failed⟩
  · rintro ⟨before, failing, after, rfl, passed, failed⟩
    exact ⟨_, _, _, zipIdx_cut.mpr ⟨before, after, rfl, rfl, rfl, rfl⟩, passed, failed⟩

theorem exists_unit_eq_ok {outcome : Except ε Unit} : (∃ result, outcome = .ok result) ↔ outcome = .ok () :=
  ⟨fun ⟨⟨⟩, here⟩ => here, fun here => ⟨(), here⟩⟩

theorem forM_eq_error {next : α → Except ε Unit} : values.forM next = .error fault ↔
    ∃ earlier failing later, values = earlier ++ failing :: later ∧
      (∀ value ∈ earlier, next value = .ok ()) ∧ next failing = .error fault := by
  simp only [forM_eq_error_mapM, mapM_eq_error, exists_unit_eq_ok]

theorem forM_numbered_eq_error {next : α × Nat → Except ε Unit} :
    (values.zipIdx start).forM next = .error fault ↔
      ∃ earlier failing later, values = earlier ++ failing :: later ∧
        (∀ value ∈ earlier.zipIdx start, next value = .ok ()) ∧
        next (failing, start + earlier.length) = .error fault := by
  simp only [forM_eq_error_mapM, mapM_numbered_eq_error, exists_unit_eq_ok]

end Triage
