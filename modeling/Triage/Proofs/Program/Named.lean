import Triage.Program.Basic
import Triage.Proofs.Datum.Names
import Triage.Proofs.Outcome

namespace Triage

namespace Expr

variable {e left right : Expr}

def Mentions (e : Expr) (name : Datum) : Prop := ∃ condition, .ok condition ∈ e.tips ∧ condition.statement = name

@[simp] theorem mentions_leaf : Mentions (.leaf condition) name ↔ condition.statement = name := by
  simp [Mentions, tips]

@[simp] theorem mentions_node : Mentions (.node op left right) name ↔ left.Mentions name ∨ right.Mentions name := by
  simp only [Mentions, tips, List.mem_append, or_and_right, exists_or]

@[simp] theorem mentions_foreign : ¬Mentions (.foreign given) name := by
  simp [Mentions, tips]

theorem tips_proper (proper : e.proper = true) : ∃ asked : List Condition, e.tips = asked.map .ok := by
  induction e with
  | leaf condition => exact ⟨[condition], rfl⟩
  | node op left right ihLeft ihRight =>
      simp only [Expr.proper, Bool.and_eq_true] at proper
      obtain ⟨front, first⟩ := ihLeft proper.1
      obtain ⟨back, second⟩ := ihRight proper.2
      exact ⟨front ++ back, by rw [tips, first, second, List.map_append]⟩
  | foreign given => cases proper

variable {asked : List Condition}

theorem conditions_tips (same : e.tips = asked.map .ok) : e.conditions = .ok asked := by
  rw [Expr.conditions, same, mapM_eq_ok, List.forall₂_map_left_iff, List.forall₂_same]
  exact fun _ _ => rfl

theorem mentions_conditions (found : e.conditions = .ok asked) :
    e.Mentions name ↔ ∃ condition ∈ asked, condition.statement = name := by
  simp [Mentions, mem_mapM found]

theorem mentions_tips (same : e.tips = asked.map .ok) :
    e.Mentions name ↔ ∃ condition ∈ asked, condition.statement = name := mentions_conditions (conditions_tips same)

def textual (e : Expr) : Bool :=
  e.tips.all fun tip =>
    match tip with
    | .ok condition => condition.statement.isText
    | .error _ => true

theorem textual_iff : e.textual = true ↔ ∀ name, e.Mentions name → name.isText = true := by
  rw [textual, List.all_eq_true]
  constructor
  · rintro each _ ⟨condition, member, rfl⟩
    exact each (.ok condition) member
  · intro texts tip member
    cases tip with
    | ok condition => exact texts condition.statement ⟨condition, member, rfl⟩
    | error _ => rfl

end Expr

def Declares (declarations : List Declaration) (name : Datum) : Prop :=
  ∃ declaration ∈ declarations, declaration.name = name

theorem declares_iff : Declares declarations name ↔ name ∈ declarations.map Declaration.name := by
  simp [Declares]

instance (declarations : List Declaration) (name : Datum) : Decidable (Declares declarations name) :=
  decidable_of_iff _ declares_iff.symm

def FirstDeclared (declarations : List Declaration) (name : Datum) (declaration : Declaration) : Prop :=
  ∃ before after, declarations = before ++ declaration :: after ∧ declaration.name = name ∧
    ∀ other ∈ before, other.name ≠ name

theorem FirstDeclared.declares (first : FirstDeclared declarations name declaration) : Declares declarations name := by
  obtain ⟨before, after, rfl, here, _⟩ := first
  exact ⟨declaration, by simp, here⟩

namespace Program

structure Named (p : Program) : Prop where
  statements : ∀ name, Declares p.statements name → name.isText = true
  results : ∀ name, Declares p.results name → name.isText = true
  mentions : ∀ rule ∈ p.rules, ∀ name, rule.expression.Mentions name → name.isText = true
  outcomes : ∀ rule ∈ p.rules, rule.result.isText = true

def Proper (p : Program) : Prop := ∀ rule ∈ p.rules, rule.expression.proper = true

theorem named_iff {p : Program} : p.Named ↔ (∀ declaration ∈ p.statements, declaration.name.isText = true) ∧
    (∀ declaration ∈ p.results, declaration.name.isText = true) ∧
    (∀ rule ∈ p.rules, rule.expression.textual = true) ∧ ∀ rule ∈ p.rules, rule.result.isText = true := by
  constructor
  · rintro ⟨statements, results, mentions, outcomes⟩
    exact ⟨fun declaration member => statements _ ⟨declaration, member, rfl⟩,
      fun declaration member => results _ ⟨declaration, member, rfl⟩,
      fun rule member => Expr.textual_iff.mpr (mentions rule member), outcomes⟩
  · rintro ⟨statements, results, mentions, outcomes⟩
    refine ⟨?_, ?_, fun rule member => Expr.textual_iff.mp (mentions rule member), outcomes⟩
    · rintro _ ⟨declaration, member, rfl⟩
      exact statements declaration member
    · rintro _ ⟨declaration, member, rfl⟩
      exact results declaration member

instance (p : Program) : Decidable p.Named := decidable_of_iff _ named_iff.symm

instance (p : Program) : Decidable p.Proper := inferInstanceAs (Decidable (∀ rule ∈ p.rules, _))

theorem names_texts (texts : ∀ name, Declares declarations name → name.isText = true) :
    names declarations = .ok (declarations.map Declaration.name) := by
  rw [names, mapM_eq_ok, List.forall₂_map_right_iff, List.forall₂_same]
  intro declaration member
  rw [if_pos (Datum.isKey_text (texts _ ⟨declaration, member, rfl⟩))]

theorem declared?_eq_some (text : name.isText = true) :
    declared? declarations name = some declaration ↔ FirstDeclared declarations name declaration := by
  simp only [declared?, List.find?_eq_some_iff_append, Datum.likeness_text text, decide_eq_true_eq, Bool.not_eq_true',
    decide_eq_false_iff_not]
  constructor
  · rintro ⟨here, before, after, parts, others⟩
    exact ⟨before, after, parts, here, others⟩
  · rintro ⟨before, after, parts, here, others⟩
    exact ⟨here, before, after, parts, others⟩

theorem declared?_eq_none (text : name.isText = true) :
    declared? declarations name = none ↔ ¬Declares declarations name := by
  simp [declared?, Declares, Datum.likeness_text text]

theorem asked?_text (text : name.isText = true) (declarations : List Declaration) :
    asked? declarations name = declared? declarations name := by
  obtain ⟨s, rfl⟩ := Datum.exists_text text
  rfl

end Program

end Triage
