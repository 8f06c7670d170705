import Triage.Command.Folder

namespace Triage.Command.Act
open Text

variable {act : Act α} {next : α → Act β} {desk : Desk}

@[simp] theorem runOn_lift (outcome : Except Failure α) (desk : Desk) :
    (liftM outcome : Act α).runOn desk = (outcome, desk) := rfl

@[simp] theorem runOn_get (desk : Desk) : (get : Act Desk).runOn desk = (.ok desk, desk) := rfl

@[simp] theorem runOn_printError (text : List Letter) (desk : Desk) :
    (printError text).runOn desk = (.ok (), { desk with err := desk.err ++ text }) := rfl

theorem runOn_fill (place : Path) (text : List Letter) (desk : Desk) : (fill place text).runOn desk =
    match Letter.utf8? text with
    | some content => (.ok (), { desk with folder := desk.folder.put place content })
    | none => (.error .unencodable, desk) := by
  unfold fill
  cases Letter.utf8? text with
  | some content => rfl
  | none => rfl

theorem runOn_bind (act : Act α) (next : α → Act β) (desk : Desk) : (act >>= next).runOn desk =
    match act.runOn desk with
    | (.ok value, between) => (next value).runOn between
    | (.error failure, between) => (.error failure, between) := by
  have step : (act >>= next).runOn desk =
      StateT.run (ExceptT.bindCont next (act.runOn desk).1) (act.runOn desk).2 := rfl
  rw [step]
  rcases act.runOn desk with ⟨failure | value, between⟩
  · rfl
  · rfl

theorem runOn_openFile (name : List Letter) (desk : Desk) : (openFile name).runOn desk =
    match desk.folder.placeOf name with
    | .ok place => (.ok place, { desk with folder := desk.folder.put place [] })
    | .error failure => (.error failure, desk) := by
  unfold openFile
  rw [runOn_bind, runOn_get]
  cases found : desk.folder.placeOf name with
  | error failure => simp only [runOn_bind, runOn_lift, found]
  | ok place =>
      simp only [runOn_bind, runOn_lift, found]
      rfl

def Quiet (act : Act α) : Prop := ∀ desk, ∃ err, (act.runOn desk).2 = { desk with err := err }

theorem quiet_pure (value : α) : Quiet (pure value) := fun desk => ⟨desk.err, rfl⟩

theorem quiet_throw (failure : Failure) : Quiet (throw failure : Act α) := fun desk => ⟨desk.err, rfl⟩

theorem quiet_lift (outcome : Except Failure α) : Quiet (liftM outcome) := fun desk => ⟨desk.err, rfl⟩

theorem quiet_get : Quiet get := fun desk => ⟨desk.err, rfl⟩

theorem quiet_printError (text : List Letter) : Quiet (printError text) := fun _ => ⟨_, rfl⟩

theorem Quiet.bind (quiet : Quiet act) (each : ∀ value, Quiet (next value)) : Quiet (act >>= next) := by
  intro desk
  obtain ⟨err, after⟩ := quiet desk
  rw [runOn_bind]
  rcases ended : act.runOn desk with ⟨failure | value, between⟩
  · exact ⟨err, by rw [← after, ended]⟩
  · rw [ended] at after
    cases after
    exact each value _

-- An action that leaves the folder as it is, and prints nothing but errors unless it ends well.
structure Harmless (act : Act Nat) (desk : Desk) : Prop where
  folder : (act.runOn desk).2.folder = desk.folder
  out : (act.runOn desk).2.out = desk.out ∨ (act.runOn desk).1 = .ok 0

theorem Quiet.harmless {act : Act Nat} (quiet : Quiet act) (desk : Desk) : Harmless act desk := by
  obtain ⟨err, after⟩ := quiet desk
  exact ⟨by rw [after], Or.inl (by rw [after])⟩

theorem Quiet.thenHarmless {next : α → Act Nat} (quiet : Quiet act)
    (each : ∀ value err, act.runOn desk = (.ok value, { desk with err := err }) →
      Harmless (next value) { desk with err := err }) : Harmless (act >>= next) desk := by
  obtain ⟨err, after⟩ := quiet desk
  rcases ended : act.runOn desk with ⟨failure | value, between⟩
  · rw [ended] at after
    cases after
    refine ⟨?_, Or.inl ?_⟩
    · rw [runOn_bind, ended]
    · rw [runOn_bind, ended]
  · rw [ended] at after
    cases after
    obtain ⟨folder, out⟩ := each value err ended
    refine ⟨?_, ?_⟩
    · rw [runOn_bind, ended]
      exact folder
    · rw [runOn_bind, ended]
      exact out

theorem harmless_print (text : List Letter) (desk : Desk) : Harmless (do print text; return 0) desk :=
  ⟨rfl, Or.inr rfl⟩

end Triage.Command.Act
