import Triage.Proofs.Report.Relevance

namespace Triage

def Answers.Within (answers more : Answers) : Prop :=
  ∀ name reply, answers.reply? name = some reply → more.reply? name = some reply

-- The same refusal, or a value and a wider one.
inductive Widens (wider : α → α → Prop) : Except ε α → Except ε α → Prop where
  | refused : Widens wider (.error refusal) (.error refusal)
  | value (grown : wider before after) : Widens wider (.ok before) (.ok after)

namespace Widens

variable {wider : α → α → Prop}

theorem bind {first second : Except ε α} {next after : α → Except ε β} {ending : β → β → Prop}
    (start : Widens wider first second)
    (more : ∀ value another, wider value another → Widens ending (next value) (after another)) :
    Widens ending (first >>= next) (second >>= after) := by
  cases start with
  | refused => exact .refused
  | value grown => exact more _ _ grown

theorem of_ok {first second : Except ε α} (widens : Widens wider first second) (accepted : first = .ok before) :
    ∃ after, second = .ok after ∧ wider before after := by
  cases widens with
  | refused => cases accepted
  | value grown =>
      cases accepted
      exact ⟨_, rfl, grown⟩

theorem error_iff {first second : Except ε α} (widens : Widens wider first second) :
    first = .error refusal ↔ second = .error refusal := by
  cases widens with
  | refused => rfl
  | value grown => simp

end Widens

def Keeps (before after : Bool) : Prop := before = true → after = true

theorem Connective.apply_keeps (op : Connective) (left : Keeps l x) (right : Keeps r y) :
    Keeps (op.apply l r) (op.apply x y) := by
  intro holds
  cases op with
  | and =>
      obtain ⟨first, second⟩ := Bool.and_eq_true_iff.mp holds
      exact Bool.and_eq_true_iff.mpr ⟨left first, right second⟩
  | or =>
      rcases Bool.or_eq_true_iff.mp holds with first | second
      · exact Bool.or_eq_true_iff.mpr (.inl (left first))
      · exact Bool.or_eq_true_iff.mpr (.inr (right second))

section Growing

variable {answers more : Answers}

theorem Condition.holds_within (within : answers.Within more) (condition : Condition) :
    Widens Keeps (condition.holds answers) (condition.holds more) := by
  unfold Condition.holds
  split
  · rename_i name _
    refine .value fun holds => ?_
    exact beq_iff_eq.mpr (within name condition.wanted (beq_iff_eq.mp holds))
  · split
    · exact .value id
    · exact .refused

theorem Expr.holds_within (within : answers.Within more) (e : Expr) :
    Widens Keeps (e.holds answers) (e.holds more) := by
  induction e with
  | leaf condition => exact condition.holds_within within
  | node op left right ihLeft ihRight =>
      unfold Expr.holds
      refine ihLeft.bind fun l x first => ihRight.bind fun r y second => ?_
      exact .value (op.apply_keeps first second)
  | foreign given => exact .value id

theorem Program.fired_within (within : answers.Within more) (rules : List Rule) :
    Widens List.Sublist (fired answers rules) (fired more rules) := by
  induction rules with
  | nil => exact .value .slnil
  | cons rule rules ih =>
      unfold fired
      refine (rule.expression.holds_within within).bind fun before after keeps => ih.bind fun firing wider grown => ?_
      refine .value ?_
      cases before with
      | true =>
          rw [keeps rfl]
          exact grown.cons_cons rule
      | false =>
          cases after with
          | true => exact grown.cons rule
          | false => exact grown

-- An answer to a question that has neither a yes nor a no takes no reply away.
theorem Answers.within_set (unanswered : answers.reply? name = none) (given : Datum) :
    answers.Within (answers.set name given) := by
  intro other reply found
  have apart : other ≠ name := by
    rintro rfl
    rw [unanswered] at found
    cases found
  rw [reply?_set apart]
  exact found

end Growing

namespace Program

-- Answers that keep every yes and no of others keep every expression that holds and every rule that
-- fires, the rules in their order; and they are refused just where the others are, which for names
-- that are texts is never. To answer one more question is such a change.
theorem fired_grows :
    (∀ answers more : Answers, answers.Within more →
      (∀ e : Expr, e.holds answers = .ok true → e.holds more = .ok true) ∧
      ∀ rules, (∀ firing, fired answers rules = .ok firing →
          ∃ wider, fired more rules = .ok wider ∧ firing.Sublist wider) ∧
        (∀ refusal, fired answers rules = .error refusal ↔ fired more rules = .error refusal) ∧
        ((∀ rule ∈ rules, ∀ name, rule.expression.Mentions name → name.isText = true) →
          ∃ firing, fired answers rules = .ok firing)) ∧
    ∀ (answers : Answers) (name : String), answers.reply? name = none → ∀ given,
      answers.Within (answers.set name given) := by
  constructor
  · intro answers more within
    constructor
    · intro e holds
      obtain ⟨truth, found, keeps⟩ := (e.holds_within within).of_ok holds
      rw [found, keeps rfl]
    · intro rules
      have grows := fired_within within rules
      exact ⟨fun firing accepted => grows.of_ok accepted, fun refusal => grows.error_iff,
        fun texts => ⟨_, fired_named texts answers⟩⟩
  · intro answers name unanswered given
    exact Answers.within_set unanswered given

def gradual : List Rule := [
  ⟨.node .and (.leaf ⟨.text "noise", true⟩) (.leaf ⟨.text "heat", false⟩), .text "dust"⟩,
  ⟨.node .or (.leaf ⟨.text "heat", true⟩) (.leaf ⟨.text "noise", true⟩), .text "fan"⟩,
  ⟨.leaf ⟨.text "heat", false⟩, .text "case"⟩]

theorem fired_grows_gradual :
    Answers.reply? [("heat", .text "maybe"), ("noise", .text "no")] "heat" = none ∧
    ∃ firing wider, fired [("heat", .text "maybe"), ("noise", .text "no")] gradual = .ok firing ∧
      fired [("heat", .text "yes"), ("noise", .text "no")] gradual = .ok wider ∧
      firing.Sublist wider ∧ firing.length = 1 ∧ wider.length = 3 := by
  have unanswered : Answers.reply? [("heat", .text "maybe"), ("noise", .text "no")] "heat" = none := by decide
  have within := fired_grows.2 _ _ unanswered (.text "yes")
  have first : fired [("heat", .text "maybe"), ("noise", .text "no")] gradual = .ok [gradual[1]] := by decide
  obtain ⟨wider, second, grown⟩ := ((fired_grows.1 _ _ within).2 gradual).1 _ first
  have all : fired [("heat", .text "yes"), ("noise", .text "no")] gradual = .ok gradual := by decide
  have same : wider = gradual := Except.ok.inj (second.symm.trans all)
  exact ⟨unanswered, [gradual[1]], wider, first, second, grown, rfl, by rw [same]; rfl⟩

end Program

end Triage
