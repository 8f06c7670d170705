import Triage.Source.Reader
import Triage.Proofs.Expr.Outcomes
import Triage.Proofs.Program.Named

namespace Triage

namespace Expr

variable {e : Expr}

theorem EveryLeaf.proper (every : EveryLeaf allows e) : e.proper = true := by
  induction every with
  | leaf _ => rfl
  | node _ _ left right => rw [Expr.proper, left, right, Bool.and_self]

theorem EveryLeaf.texts (every : EveryLeaf allows e) : ∀ name, e.Mentions name → name.isText = true := by
  induction every with
  | leaf _ =>
      intro name mentions
      rw [← mentions_leaf.mp mentions]
      rfl
  | node _ _ left right =>
      intro name mentions
      rcases mentions_node.mp mentions with inLeft | inRight
      · exact left name inLeft
      · exact right name inRight

end Expr

namespace Source
open Triage.Text

variable {rule : Rule} {rules : List Rule} {p : Program}

theorem readDeclaration_named (accepted : readDeclaration part line text = .ok declaration) :
    declaration.name.isText = true := by
  unfold readDeclaration at accepted
  split at accepted
  · cases accepted
    rfl
  · cases accepted

theorem readDeclarations_named (accepted : readDeclarations enclosed part = .ok declarations) :
    ∀ name, Declares declarations name → name.isText = true := by
  rintro name ⟨declaration, member, rfl⟩
  obtain ⟨_, _, here⟩ := (mem_mapM accepted).mp member
  exact readDeclaration_named here

theorem readRule_named (accepted : readRule line text = .ok rule) :
    rule.expression.proper = true ∧ (∀ name, rule.expression.Mentions name → name.isText = true) ∧
      rule.result.isText = true := by
  unfold readRule at accepted
  split at accepted
  · cases accepted
  · split at accepted
    · cases accepted
    · rename_i expression readable
      cases accepted
      have every := Expr.read_named readable
      exact ⟨every.proper, every.texts, rfl⟩

theorem readRules_named (accepted : readRules enclosed = .ok rules) : ∀ rule ∈ rules,
    rule.expression.proper = true ∧ (∀ name, rule.expression.Mentions name → name.isText = true) ∧
      rule.result.isText = true := by
  intro rule member
  obtain ⟨_, _, here⟩ := (mem_mapM accepted).mp member
  exact readRule_named here

theorem inSource_eq_ok {outcome : Except Fault α} : inSource outcome = .ok value ↔ outcome = .ok value :=
  mapError_eq_ok

theorem read_eq_ok : read text = .ok p ↔ ∃ found, sections text = .ok found ∧
    readDeclarations found.statements Section.statements.opening = .ok p.statements ∧
    readDeclarations found.results Section.results.opening = .ok p.results ∧
    readRules found.rules = .ok p.rules := by
  simp only [read, bind_eq_ok, inSource_eq_ok]
  constructor
  · rintro ⟨found, whole, statements, first, results, second, rules, third, ⟨⟩⟩
    exact ⟨found, whole, first, second, third⟩
  · rintro ⟨found, whole, first, second, third⟩
    exact ⟨found, whole, _, first, _, second, _, third, rfl⟩

theorem read_named (accepted : read text = .ok p) : p.Named ∧ p.Proper := by
  obtain ⟨found, _, statements, results, rules⟩ := read_eq_ok.mp accepted
  have each := readRules_named rules
  refine ⟨⟨readDeclarations_named statements, readDeclarations_named results, ?_, ?_⟩, ?_⟩
  · exact fun rule member => (each rule member).2.1
  · exact fun rule member => (each rule member).2.2
  · exact fun rule member => (each rule member).1

end Source

end Triage
