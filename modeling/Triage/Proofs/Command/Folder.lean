import Mathlib.Data.List.Basic
import Triage.Command.Folder
import Triage.Proofs.Outcome

namespace Triage.Command
open Text

namespace Folder

variable {folder : Folder} {place other : Path} {content : List UInt8}

theorem lookup_others (files : List (Path × List UInt8)) (unlike : other ≠ place) :
    (files.filter fun (file, _) => file != place).lookup other = files.lookup other := by
  induction files with
  | nil => rfl
  | cons file files ih =>
      obtain ⟨path, known⟩ := file
      by_cases same : path = place
      · have apart : (other == path) = false := by simpa [same] using unlike
        rw [List.filter_cons_of_neg (by simp [same]), ih, List.lookup_cons, apart]
      · rw [List.filter_cons_of_pos (by simp [same]), List.lookup_cons, List.lookup_cons, ih]

theorem put_here (folder : Folder) (place : Path) (content : List UInt8) :
    (folder.put place content).files.lookup place = some content := by
  simp [put]

theorem put_other (unlike : other ≠ place) : (folder.put place content).files.lookup other = folder.files.lookup other := by
  have apart : (other == place) = false := by simpa using unlike
  rw [put, List.lookup_cons, apart]
  exact lookup_others folder.files unlike

theorem put_put (folder : Folder) (place : Path) (first second : List UInt8) :
    (folder.put place first).put place second = folder.put place second := by
  simp [put, List.filter_filter]

structure Wrote (before after : Folder) (place : Path) (content : List UInt8) : Prop where
  here : after.files.lookup place = some content
  others : ∀ other, other ≠ place → after.files.lookup other = before.files.lookup other
  place : after.place = before.place
  folders : after.folders = before.folders

theorem wrote_put (folder : Folder) (place : Path) (content : List UInt8) :
    folder.Wrote (folder.put place content) place content :=
  ⟨put_here folder place content, fun _ unlike => put_other unlike, rfl, rfl⟩

theorem foldl_enter (parts : List (List UInt8)) (path : Path) :
    (parts.filter fun part => !part.isEmpty).foldl (enter dot) path = parts.foldl (enter dot) path := by
  induction parts generalizing path with
  | nil => rfl
  | cons part parts ih =>
      cases part with
      | nil =>
          have stays : enter dot path [] = path := by simp [enter]
          rw [List.filter_cons_of_neg (by simp), List.foldl_cons, stays, ih]
      | cons c part => rw [List.filter_cons_of_pos (by simp), List.foldl_cons, List.foldl_cons, ih]

theorem advance_enter (accepted : folder.advance path part = .ok next) : next = enter dot path part := by
  unfold advance at accepted
  split at accepted
  · cases accepted
  · split at accepted
    · cases accepted
    · dsimp only at accepted
      split at accepted
      · cases accepted
        rfl
      · cases accepted

theorem foldlM_advance {parts : List (List UInt8)} (accepted : parts.foldlM folder.advance path = .ok around) :
    around = parts.foldl (enter dot) path := by
  induction parts generalizing path with
  | nil =>
      cases accepted
      rfl
  | cons part parts ih =>
      rw [List.foldlM_cons] at accepted
      cases found : folder.advance path part with
      | error failure =>
          rw [found] at accepted
          cases accepted
      | ok next =>
          rw [found] at accepted
          rw [ih accepted, advance_enter found, List.foldl_cons]

theorem unless_eq_ok {c : Prop} [Decidable c] {failure : Failure} {next : Unit → Except Failure α} :
    (if c then Except.error failure >>= next else next ()) = .ok value ↔ ¬c ∧ next () = .ok value := by
  by_cases wrong : c
  · rw [if_pos wrong]
    constructor
    · intro accepted
      cases accepted
    · rintro ⟨right, _⟩
      exact absurd wrong right
  · rw [if_neg wrong]
    exact ⟨fun accepted => ⟨wrong, accepted⟩, fun ⟨_, accepted⟩ => accepted⟩

-- The place of a file to be written is the path that its name means.
theorem target_resolve (found : folder.target name = .ok place) : place = resolve folder.place name := by
  unfold target at found
  obtain ⟨_, found⟩ := unless_eq_ok.mp found
  obtain ⟨_, found⟩ := unless_eq_ok.mp found
  obtain ⟨_, found⟩ := unless_eq_ok.mp found
  obtain ⟨around, reached, found⟩ := bind_eq_ok.mp found
  obtain ⟨_, found⟩ := unless_eq_ok.mp found
  obtain ⟨named, found⟩ := unless_eq_ok.mp found
  obtain ⟨_, found⟩ := unless_eq_ok.mp found
  obtain ⟨_, found⟩ := unless_eq_ok.mp found
  cases found
  rw [Bool.or_eq_true, not_or, decide_eq_true_eq, decide_eq_true_eq, Classical.not_not] at named
  rw [resolve, follow, ← foldl_enter]
  have start := foldlM_advance reached
  rcases List.eq_nil_or_concat' ((splitAt slash name).filter fun part => !part.isEmpty) with
    empty | ⟨front, last, parts⟩
  · -- A name without parts would name the folder itself.
    rw [empty] at named
    simp [enter] at named
  · rw [parts, List.dropLast_concat] at start
    rw [parts, List.getLastD_concat] at named ⊢
    rw [List.foldl_append, ← start]
    exact named.2.symm

theorem placeOf_resolve (found : folder.placeOf name = .ok place) :
    ∃ bytes, Letter.fileName? name = some bytes ∧ place = resolve folder.place bytes := by
  unfold placeOf at found
  split at found
  · rename_i bytes named
    exact ⟨bytes, named, target_resolve found⟩
  · cases found

end Folder

end Triage.Command
