import Triage.Proofs.Document
import Triage.Proofs.Program.Named

namespace Triage

variable {kind : Datum → Bool}

namespace Expr

def every (kind : Datum → Bool) (e : Expr) : Bool :=
  e.tips.all fun tip =>
    match tip with
    | .ok condition => kind condition.statement
    | .error _ => true

theorem every_iff {e : Expr} : e.every kind = true ↔ ∀ name, e.Mentions name → kind name = true := by
  rw [every, List.all_eq_true]
  constructor
  · rintro each _ ⟨condition, member, rfl⟩
    exact each (.ok condition) member
  · intro holds tip member
    cases tip with
    | ok condition => exact holds condition.statement ⟨condition, member, rfl⟩
    | error _ => rfl

end Expr

def Declaration.every (kind : Datum → Bool) (declaration : Declaration) : Bool :=
  kind declaration.name && kind declaration.value

theorem Declaration.every_imp {declaration : Declaration} {wider : Datum → Bool} (every : declaration.every kind = true)
    (widens : ∀ d, kind d = true → wider d = true) : declaration.every wider = true := by
  obtain ⟨name, value⟩ := Bool.and_eq_true_iff.mp every
  exact Bool.and_eq_true_iff.mpr ⟨widens _ name, widens _ value⟩

namespace Program

structure Every (kind : Datum → Bool) (p : Program) : Prop where
  statements : ∀ declaration ∈ p.statements, declaration.every kind = true
  results : ∀ declaration ∈ p.results, declaration.every kind = true
  conditions : ∀ rule ∈ p.rules, rule.expression.every kind = true
  outcomes : ∀ rule ∈ p.rules, kind rule.result = true

instance (p : Program) : Decidable (p.Every kind) :=
  decidable_of_iff ((∀ declaration ∈ p.statements, declaration.every kind = true) ∧
      (∀ declaration ∈ p.results, declaration.every kind = true) ∧
      (∀ rule ∈ p.rules, rule.expression.every kind = true) ∧ ∀ rule ∈ p.rules, kind rule.result = true)
    ⟨fun ⟨statements, results, conditions, outcomes⟩ => ⟨statements, results, conditions, outcomes⟩,
      fun ⟨statements, results, conditions, outcomes⟩ => ⟨statements, results, conditions, outcomes⟩⟩

theorem Every.named {p : Program} (texts : p.Every Datum.isText) : p.Named := by
  refine ⟨?_, ?_, fun rule member => Expr.every_iff.mp (texts.conditions rule member), texts.outcomes⟩
  · rintro _ ⟨declaration, member, rfl⟩
    exact (Bool.and_eq_true_iff.mp (texts.statements declaration member)).1
  · rintro _ ⟨declaration, member, rfl⟩
    exact (Bool.and_eq_true_iff.mp (texts.results declaration member)).1

theorem Every.imp {p : Program} {wider : Datum → Bool} (every : p.Every kind)
    (widens : ∀ d, kind d = true → wider d = true) : p.Every wider := by
  refine ⟨?_, ?_, ?_, ?_⟩
  · intro declaration member
    exact Declaration.every_imp (every.statements declaration member) widens
  · intro declaration member
    exact Declaration.every_imp (every.results declaration member) widens
  · intro rule member
    rw [Expr.every_iff]
    intro name mentions
    exact widens name (Expr.every_iff.mp (every.conditions rule member) name mentions)
  · intro rule member
    exact widens rule.result (every.outcomes rule member)

end Program

structure Datum.Composed (kind : Datum → Bool) : Prop where
  bool : ∀ b, kind (.bool b) = true
  text : ∀ s, kind (.text s) = true
  list : ∀ items, (∀ item ∈ items, kind item = true) → kind (.list items) = true
  record : ∀ fields, (fields.map Prod.fst).Nodup → (∀ field ∈ fields, kind field.2 = true) →
    kind (.record fields) = true

namespace Datum.Composed

theorem ofText (composed : Composed kind) (d : Datum) (text : d.isText = true) : kind d = true := by
  obtain ⟨s, rfl⟩ := Datum.exists_text text
  exact composed.text s

theorem expression (composed : Composed kind) {e : Expr} (proper : e.proper = true)
    (each : ∀ name, e.Mentions name → kind name = true) : kind e.document = true := by
  induction e with
  | leaf condition =>
      have statement := each condition.statement (Expr.mentions_leaf.mpr rfl)
      have inner : kind (.record [("variable", condition.statement), ("negated", .bool condition.negated)]) = true :=
        composed.record _ (by simp) (by simp [statement, composed.bool])
      exact composed.record _ (by simp) (by simp [inner, composed.text])
  | node op left right ihLeft ihRight =>
      rw [Expr.proper, Bool.and_eq_true] at proper
      have first := ihLeft proper.1 fun name mentions => each name (Expr.mentions_node.mpr (.inl mentions))
      have second := ihRight proper.2 fun name mentions => each name (Expr.mentions_node.mpr (.inr mentions))
      exact composed.record _ (by simp) (by simp [first, second, composed.text])
  | foreign given => cases proper

theorem declarations (composed : Composed kind) {declarations : List Declaration}
    (each : ∀ declaration ∈ declarations, declaration.every kind = true) :
    kind (.list (declarations.map Document.ofDeclaration)) = true := by
  refine composed.list _ fun item inList => ?_
  obtain ⟨declaration, member, rfl⟩ := List.mem_map.mp inList
  obtain ⟨name, value⟩ := Bool.and_eq_true_iff.mp (each declaration member)
  exact composed.record _ (by simp) (by simp [name, value])

theorem rules (composed : Composed kind) {p : Program} (proper : p.Proper) (every : p.Every kind) :
    kind (.list (p.rules.map Rule.document)) = true := by
  refine composed.list _ fun item inList => ?_
  obtain ⟨rule, member, rfl⟩ := List.mem_map.mp inList
  have expression := composed.expression (proper rule member) (Expr.every_iff.mp (every.conditions rule member))
  exact composed.record _ (by simp) (by simp [expression, every.outcomes rule member])

theorem document (composed : Composed kind) {p : Program} (proper : p.Proper) (every : p.Every kind) :
    kind p.document = true := by
  have statements := composed.declarations every.statements
  have results := composed.declarations every.results
  have rules := composed.rules proper every
  exact composed.record _ (by simp) (by simp [statements, results, rules])

end Datum.Composed

end Triage
