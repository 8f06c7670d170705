import Triage.Proofs.Expr.Reading

namespace Triage.Expr
open Triage.Text

def IsName (name : List Char) : Prop := name ≠ [] ∧ trim name = name

inductive ReadFault : Fault → Prop where
  | emptyCondition (text : List Char) : ReadFault (.emptyCondition text)
  | missingOperand (text : List Char) : ReadFault (.missingOperand text)

theorem ReadFault.place (read : ReadFault fault) : fault.location = .nowhere ∧ fault.cause? = none := by
  cases read <;> exact ⟨rfl, rfl⟩

theorem ReadFault.kind (read : ReadFault fault) :
    fault.kind = .invalidCondition ∨ fault.kind = .invalidLogicalExpression := by
  cases read with
  | emptyCondition text => exact Or.inl rfl
  | missingOperand text => exact Or.inr rfl

theorem readCondition_named (accepted : readCondition text = .ok condition) :
    ∃ name, condition.statement = Datum.ofChars name ∧ IsName name := by
  cases readCondition_reads accepted with
  | bare _ filled => exact ⟨_, rfl, filled, trim_trim _⟩
  | negated _ _ filled => exact ⟨_, rfl, filled, trim_trim _⟩

theorem readCondition_fault (failed : readCondition text = .error fault) : fault = .emptyCondition text := by
  unfold readCondition at failed
  split at failed
  dsimp only at failed
  split at failed
  · cases failed
    rfl
  · cases failed

theorem readTrimmed_named (accepted : readTrimmed text = .ok e) : EveryLeaf (fun name _ => IsName name) e :=
  readTrimmed_every (fun _ => True) (fun _ _ => trivial) (fun _ _ => ⟨trivial, trivial⟩)
    (fun _ _ _ found => readCondition_named found) trivial accepted

theorem readTrimmed_fault (failed : readTrimmed text = .error fault) : ReadFault fault := by
  induction text using readTrimmed.induct generalizing fault with
  | case1 text inside wrapped ih =>
      rw [readTrimmed_group wrapped] at failed
      exact ih failed
  | case2 text loose left op right cut blank =>
      rw [readTrimmed_split loose cut, ← trim_isEmpty, ← trim_isEmpty, if_pos blank] at failed
      cases failed
      exact .missingOperand text
  | case3 text loose left op right cut solid ihLeft ihRight =>
      rw [readTrimmed_split loose cut, ← trim_isEmpty, ← trim_isEmpty, if_neg solid] at failed
      rcases bind_eq_error.mp failed with inLeft | ⟨l, _, failed⟩
      · exact ihLeft inLeft
      · rcases bind_eq_error.mp failed with inRight | ⟨r, _, failed⟩
        · exact ihRight inRight
        · cases failed
  | case4 text loose uncut =>
      rw [readTrimmed_leaf loose uncut] at failed
      cases found : readCondition text with
      | error other =>
          rw [found] at failed
          cases failed
          cases readCondition_fault found
          exact .emptyCondition text
      | ok condition =>
          rw [found] at failed
          cases failed

theorem read_named (accepted : read text = .ok e) : EveryLeaf (fun name _ => IsName name) e :=
  readTrimmed_named accepted

theorem read_fault (failed : read text = .error fault) : ReadFault fault := readTrimmed_fault failed

end Triage.Expr
