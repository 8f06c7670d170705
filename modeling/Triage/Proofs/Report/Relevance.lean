import Triage.Proofs.Report.Inventory
import Triage.Proofs.Selection

namespace Triage

namespace Answers

variable {answers others : Answers} {name other : String}

-- Each of the names has the same reply in both, or no reply in either.
def AgreeOn (answers others : Answers) (names : List Datum) : Prop :=
  ∀ name, .text name ∈ names → answers.reply? name = others.reply? name

theorem find?_set (apart : other ≠ name) (answers : Answers) (given : Datum) :
    (answers.set name given).find? (fun (known, _) => known == other) =
      answers.find? fun (known, _) => known == other := by
  induction answers with
  | nil => simp [set, Ne.symm apart]
  | cons entry answers ih =>
      obtain ⟨known, old⟩ := entry
      unfold set
      split
      · rename_i same
        simp [same, Ne.symm apart]
      · by_cases here : known = other
        · simp [here]
        · simp [here, ih]

theorem reply?_set (apart : other ≠ name) (answers : Answers) (given : Datum) :
    (answers.set name given).reply? other = answers.reply? other := by
  unfold reply?
  rw [find?_set apart]

theorem reply?_erase (apart : other ≠ name) (answers : Answers) :
    (answers.erase name).reply? other = answers.reply? other := by
  unfold reply? erase
  rw [List.find?_filter]
  congr 2
  funext entry
  by_cases here : entry.1 = other
  · simp [here, apart]
  · simp [here]

end Answers

variable {answers others : Answers} {condition : Condition} {e : Expr} {rules : List Rule} {p : Program}

theorem Condition.holds_agree
    (agree : ∀ name, condition.statement = .text name → answers.reply? name = others.reply? name) :
    condition.holds answers = condition.holds others := by
  unfold Condition.holds
  split
  · rename_i name text
    rw [agree name text]
  · rfl

theorem Expr.holds_agree (agree : ∀ name, e.Mentions (.text name) → answers.reply? name = others.reply? name) :
    e.holds answers = e.holds others := by
  induction e with
  | leaf condition =>
      apply Condition.holds_agree
      intro name text
      exact agree name (Expr.mentions_leaf.mpr text)
  | node op left right ihLeft ihRight =>
      have first := ihLeft fun name member => agree name (Expr.mentions_node.mpr (Or.inl member))
      have second := ihRight fun name member => agree name (Expr.mentions_node.mpr (Or.inr member))
      unfold Expr.holds
      rw [first, second]
  | foreign given => rfl

namespace Program

theorem fired_agree (agree : ∀ rule ∈ rules, ∀ name, rule.expression.Mentions (.text name) →
    answers.reply? name = others.reply? name) : fired answers rules = fired others rules := by
  induction rules with
  | nil => rfl
  | cons rule rules ih =>
      obtain ⟨here, later⟩ := List.forall_mem_cons.mp agree
      unfold fired
      rw [Expr.holds_agree here, ih later]

theorem selectFrom_agree (agree : ∀ rule ∈ rules, ∀ name, rule.expression.Mentions (.text name) →
    answers.reply? name = others.reply? name) (results : List Declaration) (selected : Option Datum) :
    selectFrom results answers selected rules = selectFrom results others selected rules := by
  induction rules generalizing selected with
  | nil => rfl
  | cons rule rules ih =>
      obtain ⟨here, later⟩ := List.forall_mem_cons.mp agree
      unfold selectFrom
      simp only [Expr.holds_agree here, ih later]

def SameCourse (p : Program) (answers others : Answers) : Prop :=
  ∃ firing outcome, p.rulesFired answers = .ok firing ∧ p.rulesFired others = .ok firing ∧
    p.select answers = .ok outcome ∧ p.select others = .ok outcome

theorem sameCourse_agree (named : p.Named)
    (agree : ∀ name, p.Uses (.text name) → answers.reply? name = others.reply? name) :
    p.SameCourse answers others := by
  have each : ∀ rule ∈ p.rules, ∀ name, rule.expression.Mentions (.text name) →
      answers.reply? name = others.reply? name := by
    intro rule member name mentions
    exact agree name ⟨rule, member, mentions⟩
  have same := fired_agree each
  have selected : p.select answers = p.select others := by
    unfold select selectAmong
    rw [selectFrom_agree each]
  have firing := fired_named named.mentions answers
  have outcome := select_named named answers
  exact ⟨_, _, firing, same.symm.trans firing, outcome, selected.symm.trans outcome⟩

end Program

namespace Report

-- What a program does is settled by the replies to the names that its report lists as referenced: to
-- answer any other name, to answer it anew or to take its answer back changes nothing.
theorem sameCourse_referenced (named : p.Named) : ∃ report, ofProgram p = .ok report ∧
    (∀ answers others : Answers, answers.AgreeOn others report.referenced → p.SameCourse answers others) ∧
    ∀ (answers : Answers) (name : String), .text name ∉ report.referenced →
      (∀ given, p.SameCourse (answers.set name given) answers) ∧ p.SameCourse (answers.erase name) answers := by
  obtain ⟨report, made, inventory⟩ := ofProgram_named named
  have course : ∀ answers others : Answers, answers.AgreeOn others report.referenced →
      p.SameCourse answers others := by
    intro answers others agree
    apply Program.sameCourse_agree named
    intro name uses
    exact agree name ((inventory.referenced _).mpr uses)
  refine ⟨report, made, course, ?_⟩
  intro answers name unlisted
  have apart : ∀ other, .text other ∈ report.referenced → other ≠ name := by
    intro other listed same
    exact unlisted (same ▸ listed)
  constructor
  · intro given
    apply course
    intro other listed
    exact Answers.reply?_set (apart other listed) answers given
  · apply course
    intro other listed
    exact Answers.reply?_erase (apart other listed) answers

def colourful : Program where
  statements := [⟨.text "noise", .text "Is it loud?"⟩, ⟨.text "colour", .text "Is it red?"⟩]
  results := [⟨.text "fan", .text "Clean the fan."⟩]
  rules := [⟨.node .or (.leaf ⟨.text "noise", true⟩) (.leaf ⟨.text "noise", false⟩), .text "fan"⟩]

theorem sameCourse_referenced_colourful : colourful.Named ∧
    colourful.select [("noise", .text "no")] = .ok (some (.text "Clean the fan.")) ∧
    ∃ report, ofProgram colourful = .ok report ∧ .text "colour" ∉ report.referenced ∧
      Answers.AgreeOn [("colour", .text "yes"), ("noise", .text "no")] [("noise", .text "no")] report.referenced ∧
      colourful.SameCourse [("colour", .text "yes"), ("noise", .text "no")] [("noise", .text "no")] := by
  have named : colourful.Named := by decide
  obtain ⟨report, made, course, _⟩ := sameCourse_referenced named
  have listed : (ofProgram colourful).map referenced = .ok [.text "noise"] := by decide
  rw [made] at listed
  have names : report.referenced = [.text "noise"] := Except.ok.inj listed
  have agree : Answers.AgreeOn [("colour", .text "yes"), ("noise", .text "no")] [("noise", .text "no")]
      report.referenced := by
    intro name member
    rw [names, List.mem_singleton, Datum.text.injEq] at member
    subst name
    rfl
  refine ⟨named, by decide, report, made, by rw [names]; decide, agree, course _ _ agree⟩

end Report

end Triage
