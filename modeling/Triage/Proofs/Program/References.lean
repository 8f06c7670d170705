import Triage.Program.Basic
import Triage.Proofs.Program.Named

namespace Triage.Program

variable {p : Program} {rule : Rule}

def Sound (p : Program) (rule : Rule) : Prop :=
  (∀ name, rule.expression.Mentions name → Declares p.statements name) ∧ Declares p.results rule.result

-- What is wrong with a rule: its first undeclared statement, or else its undeclared result.
inductive Dangling (p : Program) (line : Nat) (rule : Rule) : Fault → Prop where
  | statement (parts : rule.expression.conditions = .ok (before ++ condition :: after))
      (declared : ∀ other ∈ before, Declares p.statements other.statement)
      (undeclared : ¬Declares p.statements condition.statement) :
      Dangling p line rule (.undeclaredStatement line condition.statement)
  | result (declared : ∀ name, rule.expression.Mentions name → Declares p.statements name)
      (undeclared : ¬Declares p.results rule.result) : Dangling p line rule (.undeclaredResult line rule.result)

theorem Dangling.told (dangling : Dangling p line rule fault) : fault.kind = .danglingReference ∧
    fault.location = ⟨some line, none, some Section.rules.opening⟩ ∧ fault.cause? = none := by
  cases dangling <;> exact ⟨rfl, rfl, rfl⟩

theorem Dangling.unsound (dangling : Dangling p line rule fault) : ¬p.Sound rule := by
  rintro ⟨statements, result⟩
  cases dangling with
  | @statement before condition after parts _ undeclared =>
      exact undeclared (statements _ ((Expr.mentions_conditions parts).mpr ⟨condition, by simp, rfl⟩))
  | result _ undeclared => exact undeclared result

variable {name : Datum} {declared : List Datum}

theorem requireName_text (text : name.isText = true) (fault : Fault) :
    requireName declared name fault = if name ∈ declared then .ok () else .error (.fault fault) := by
  rw [requireName, Datum.isKey_text text, Datum.writable_text text]
  by_cases known : name ∈ declared
  · simp [known, (Datum.hasKey_text text declared).mpr known]
  · simp [known, mt (Datum.hasKey_text text declared).mp known]

theorem requireName_eq_ok (text : name.isText = true) : requireName declared name fault = .ok () ↔ name ∈ declared := by
  rw [requireName_text text]
  split <;> simp_all

theorem requireName_eq_error {failure : Failure} (text : name.isText = true) :
    requireName declared name fault = .error failure ↔ name ∉ declared ∧ failure = .fault fault := by
  rw [requireName_text text]
  by_cases known : name ∈ declared
  · simp [known]
  · simp only [known, if_false, not_false_eq_true, true_and, Except.error.injEq]
    exact eq_comm

variable {asked : List Condition}

def requireStatements (declared : List Datum) (line : Nat) (asked : List Condition) : Except Failure Unit :=
  asked.forM fun condition => requireName declared condition.statement (.undeclaredStatement line condition.statement)

theorem checkRule_tips (same : rule.expression.tips = asked.map .ok) (statements results : List Datum) (line : Nat) :
    checkRule statements results line rule = (do
      requireStatements statements line asked
      requireName results rule.result (.undeclaredResult line rule.result)) := by
  rw [checkRule, same, forM_map]
  rfl

theorem requireStatements_eq_ok (texts : ∀ condition ∈ asked, condition.statement.isText = true) :
    requireStatements declared line asked = .ok () ↔ ∀ condition ∈ asked, condition.statement ∈ declared := by
  rw [requireStatements, forM_eq_ok]
  exact forall₂_congr fun condition member => requireName_eq_ok (texts condition member)

theorem requireStatements_eq_error {failure : Failure}
    (texts : ∀ condition ∈ asked, condition.statement.isText = true) :
    requireStatements declared line asked = .error failure ↔
      ∃ before condition after, asked = before ++ condition :: after ∧
        (∀ other ∈ before, other.statement ∈ declared) ∧ condition.statement ∉ declared ∧
        failure = .fault (.undeclaredStatement line condition.statement) := by
  rw [requireStatements, forM_eq_error]
  refine exists₃_congr fun before condition after => and_congr_right fun parts => and_congr ?_ ?_
  · exact forall₂_congr fun other member => requireName_eq_ok (texts other (by simp [parts, member]))
  · exact requireName_eq_error (texts condition (by simp [parts]))

theorem declared_tips (same : rule.expression.tips = asked.map .ok) :
    (∀ condition ∈ asked, condition.statement ∈ p.statements.map Declaration.name) ↔
      ∀ name, rule.expression.Mentions name → Declares p.statements name := by
  simp only [← declares_iff, Expr.mentions_tips same, forall_exists_index, and_imp, forall_apply_eq_imp_iff₂]

theorem exists_asked (named : p.Named) (proper : p.Proper) (member : rule ∈ p.rules) :
    ∃ asked : List Condition, rule.expression.tips = asked.map .ok ∧
      ∀ condition ∈ asked, condition.statement.isText = true := by
  obtain ⟨asked, same⟩ := Expr.tips_proper (proper rule member)
  exact ⟨asked, same, fun condition here =>
    named.mentions rule member _ ((Expr.mentions_tips same).mpr ⟨condition, here, rfl⟩)⟩

theorem checkRule_eq_ok (named : p.Named) (proper : p.Proper) (member : rule ∈ p.rules) (line : Nat) :
    checkRule (p.statements.map Declaration.name) (p.results.map Declaration.name) line rule = .ok () ↔
      p.Sound rule := by
  obtain ⟨asked, same, texts⟩ := exists_asked named proper member
  simp only [checkRule_tips same, bind_eq_ok, requireStatements_eq_ok texts, exists_const, declared_tips same,
    requireName_eq_ok (named.outcomes rule member)]
  rw [← declares_iff, Sound]

theorem checkRule_eq_error {failure : Failure} (named : p.Named) (proper : p.Proper) (member : rule ∈ p.rules)
    (line : Nat) :
    checkRule (p.statements.map Declaration.name) (p.results.map Declaration.name) line rule = .error failure ↔
      ∃ fault, failure = .fault fault ∧ Dangling p line rule fault := by
  obtain ⟨asked, same, texts⟩ := exists_asked named proper member
  have conditions := Expr.conditions_tips same
  simp only [checkRule_tips same, bind_eq_error, requireStatements_eq_error texts, requireStatements_eq_ok texts,
    requireName_eq_error (named.outcomes rule member), exists_const, declared_tips same]
  simp only [← declares_iff]
  constructor
  · rintro (⟨before, condition, after, rfl, declared, undeclared, rfl⟩ | ⟨declared, undeclared, rfl⟩)
    · exact ⟨_, rfl, .statement conditions declared undeclared⟩
    · exact ⟨_, rfl, .result declared undeclared⟩
  · rintro ⟨fault, rfl, dangling⟩
    cases dangling with
    | statement parts declared undeclared =>
        cases conditions.symm.trans parts
        exact Or.inl ⟨_, _, _, rfl, declared, undeclared, rfl⟩
    | result declared undeclared => exact Or.inr ⟨declared, undeclared, rfl⟩

theorem checkReferences_rules (named : p.Named) : p.checkReferences = (p.rules.zipIdx 1).forM fun (rule, line) =>
    checkRule (p.statements.map Declaration.name) (p.results.map Declaration.name) line rule := by
  rw [checkReferences, names_texts named.statements, names_texts named.results]
  rfl

theorem checkReferences_eq_ok (named : p.Named) (proper : p.Proper) :
    p.checkReferences = .ok () ↔ ∀ rule ∈ p.rules, p.Sound rule := by
  rw [checkReferences_rules named, forM_eq_ok]
  exact forall_numbered (fun rule member => checkRule_eq_ok named proper member) 1

theorem checkReferences_eq_error {failure : Failure} (named : p.Named) (proper : p.Proper) :
    p.checkReferences = .error failure ↔
      ∃ earlier rule later, p.rules = earlier ++ rule :: later ∧ (∀ other ∈ earlier, p.Sound other) ∧
        ∃ fault, failure = .fault fault ∧ Dangling p (earlier.length + 1) rule fault := by
  rw [checkReferences_rules named, forM_numbered_eq_error]
  refine exists₃_congr fun earlier rule later => and_congr_right fun parts => and_congr ?_ ?_
  · exact forall_numbered (fun other member => checkRule_eq_ok named proper (by simp [parts, member])) 1
  · rw [Nat.add_comm]
    exact checkRule_eq_error named proper (by simp [parts]) _

end Triage.Program
