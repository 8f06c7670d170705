import Triage.Proofs.Selection
import Triage.Proofs.Source.Strict

namespace Triage

abbrev Lookup := Datum → Except Refusal (Option Reply)

def Answers.look (answers : Answers) : Lookup
  | .text name => .ok (answers.reply? name)
  | other => if other.isKey then .ok none else .error (.notName other)

namespace Expr

variable {e : Expr} {name : Datum} {look other : Lookup}

def holdsBy (look : Lookup) : Expr → Except Refusal Bool
  | .leaf condition => do
      let reply ← look condition.statement
      return reply == some condition.wanted
  | .node op left right => do
      let l ← left.holdsBy look
      let r ← right.holdsBy look
      return op.apply l r
  | .foreign _ => .ok false

theorem holdsBy_look (e : Expr) (answers : Answers) : e.holdsBy answers.look = e.holds answers := by
  induction e with
  | leaf condition =>
      obtain ⟨statement, negated⟩ := condition
      cases statement <;> rfl
  | node op left right ihLeft ihRight => rw [holdsBy, holds, ihLeft, ihRight]
  | foreign given => rfl

theorem holdsBy_congr (agree : ∀ name, e.Mentions name → look name = other name) :
    e.holdsBy look = e.holdsBy other := by
  induction e with
  | leaf condition => rw [holdsBy, holdsBy, agree condition.statement (mentions_leaf.mpr rfl)]
  | node op left right ihLeft ihRight =>
      have first : left.holdsBy look = left.holdsBy other :=
        ihLeft fun name inLeft => agree name (mentions_node.mpr (Or.inl inLeft))
      have second : right.holdsBy look = right.holdsBy other :=
        ihRight fun name inRight => agree name (mentions_node.mpr (Or.inr inRight))
      rw [holdsBy, holdsBy, first, second]
  | foreign given => rfl

theorem proper_iff : e.proper = true ↔ ∀ tip ∈ e.tips, ∃ condition, tip = .ok condition := by
  induction e with
  | leaf condition => simp [proper, tips]
  | node op left right ihLeft ihRight =>
      rw [proper, tips, Bool.and_eq_true, ihLeft, ihRight, List.forall_mem_append]
  | foreign given => simp [proper, tips]

end Expr

namespace Program

variable {p : Program} {rule : Rule} {answers : Answers}

theorem checkRule_proper {declared outcomes : List Datum} (accepted : checkRule declared outcomes line rule = .ok ()) :
    rule.expression.proper = true := by
  unfold checkRule at accepted
  obtain ⟨_, tips, _⟩ := bind_eq_ok.mp accepted
  refine Expr.proper_iff.mpr fun tip member => ?_
  have here := forM_eq_ok.mp tips tip member
  cases tip with
  | ok condition => exact ⟨condition, rfl⟩
  | error refusal => cases here

theorem checkReferences_proper (checked : p.checkReferences = .ok ()) : p.Proper := by
  unfold checkReferences at checked
  obtain ⟨statements, _, checked⟩ := bind_eq_ok.mp checked
  obtain ⟨results, _, checked⟩ := bind_eq_ok.mp checked
  intro rule member
  rw [← List.zipIdx_map_fst 1 p.rules] at member
  obtain ⟨⟨_, line⟩, numbered, rfl⟩ := List.mem_map.mp member
  exact checkRule_proper (forM_eq_ok.mp checked _ numbered)

theorem checkReferences_sound (named : p.Named) (checked : p.checkReferences = .ok ()) :
    ∀ rule ∈ p.rules, p.Sound rule :=
  (checkReferences_eq_ok named (checkReferences_proper checked)).mp checked

def firing (p : Program) (answers : Answers) : List Rule :=
  p.rules.filter fun rule => rule.expression.holds answers = .ok true

theorem select_firing (named : p.Named) (answers : Answers) :
    p.select answers = .ok ((p.firing answers).filterMap (outcome? p.results)).getLast? := by
  rw [select_named named, firing, List.filterMap_filter]
  simp only [decide_eq_true_eq]
  rfl

theorem outcome?_sound (named : p.Named) (member : rule ∈ p.rules) (sound : p.Sound rule) :
    ∃ declaration, FirstDeclared p.results rule.result declaration ∧
      outcome? p.results rule = some declaration.value := by
  have text := named.outcomes rule member
  cases found : declared? p.results rule.result with
  | none => exact absurd sound.2 ((declared?_eq_none text).mp found)
  | some declaration => exact ⟨declaration, (declared?_eq_some text).mp found, by rw [outcome?, found]; rfl⟩

-- A rule that holds is never followed by a note that it was skipped.
theorem events_sound (named : p.Named) (sound : ∀ rule ∈ p.rules, p.Sound rule) (answers : Answers) :
    p.events answers = .ok ((p.firing answers).map fun rule => .fired rule.result) := by
  have single : ∀ rule ∈ p.firing answers,
      (if (declared? p.results rule.result).isSome then [Event.fired rule.result]
        else [.fired rule.result, .skipped rule.result]) = [.fired rule.result] := by
    intro rule fires
    have member := (List.mem_filter.mp fires).1
    obtain ⟨declaration, first, _⟩ := outcome?_sound named member (sound rule member)
    rw [(declared?_eq_some (named.outcomes rule member)).mpr first]
    rfl
  unfold events
  rw [fired_named named.mentions]
  calc Except.ok ((p.firing answers).flatMap fun rule => _)
    _ = Except.ok ((p.firing answers).flatMap fun rule => [Event.fired rule.result]) :=
        congrArg Except.ok (List.flatMap_congr single)
    _ = _ := by rw [List.map_eq_flatMap]

theorem select_sound (named : p.Named) (sound : ∀ rule ∈ p.rules, p.Sound rule) (answers : Answers) :
    (p.select answers = .ok none ↔ p.firing answers = []) ∧
    ∀ earlier last, p.firing answers = earlier ++ [last] → ∃ declaration,
      FirstDeclared p.results last.result declaration ∧ p.select answers = .ok (some declaration.value) := by
  have each : ∀ rule ∈ p.firing answers, ∃ declaration, FirstDeclared p.results rule.result declaration ∧
      outcome? p.results rule = some declaration.value := by
    intro rule fires
    have member := (List.mem_filter.mp fires).1
    exact outcome?_sound named member (sound rule member)
  rw [select_firing named]
  constructor
  · rw [Except.ok.injEq, List.getLast?_eq_none_iff, List.filterMap_eq_nil_iff, List.eq_nil_iff_forall_not_mem]
    refine forall_congr' fun rule => ⟨fun nothing fires => ?_, fun absent fires => absurd fires absent⟩
    obtain ⟨declaration, _, outcome⟩ := each rule fires
    cases outcome.symm.trans (nothing fires)
  · intro earlier last parts
    obtain ⟨declaration, first, outcome⟩ := each last (by simp [parts])
    exact ⟨declaration, first, by simp [parts, outcome]⟩

-- A program that passes the check of references selects nothing only when no rule holds, and otherwise
-- the text of the first declaration of the result of the last rule that holds. No rule that holds is
-- skipped. What a rule comes to depends on the answers to declared statements alone: no matter what a
-- lookup says about other names, and even if it refuses them, evaluation succeeds with the same truth.
-- Programs that are read strictly are of this kind.
theorem select_checked :
    (∀ p : Program, p.Named → p.checkReferences = .ok () → ∀ answers,
      p.rulesFired answers = .ok (p.firing answers) ∧
      (p.select answers = .ok none ↔ p.firing answers = []) ∧
      (∀ earlier last, p.firing answers = earlier ++ [last] → ∃ declaration,
        FirstDeclared p.results last.result declaration ∧ p.select answers = .ok (some declaration.value)) ∧
      p.events answers = .ok ((p.firing answers).map fun rule => .fired rule.result) ∧
      ∀ rule ∈ p.rules, (∀ name, rule.expression.Mentions name → Declares p.statements name) ∧
        ∃ truth, rule.expression.holds answers = .ok truth ∧
          ∀ look : Lookup, (∀ name, Declares p.statements name → look name = answers.look name) →
            rule.expression.holdsBy look = .ok truth) ∧
    ∀ text p, Source.readAs true text = .ok p → p.Named ∧ p.checkReferences = .ok () := by
  constructor
  · intro p named checked answers
    have sound := checkReferences_sound named checked
    obtain ⟨none, last⟩ := select_sound named sound answers
    refine ⟨fired_named named.mentions answers, none, last, events_sound named sound answers, fun rule member => ?_⟩
    obtain ⟨declared, _⟩ := sound rule member
    obtain ⟨truth, holds⟩ := Expr.holds_named (named.mentions rule member) answers
    refine ⟨declared, truth, holds, fun look agree => ?_⟩
    rw [← holds, ← Expr.holdsBy_look]
    exact Expr.holdsBy_congr fun name mentions => agree name (declared name mentions)
  · intro text p accepted
    obtain ⟨loose, checked⟩ := Source.readAs_strict_eq_ok.mp accepted
    exact ⟨(Source.read_named (Source.readAs_loose_eq_ok.mp loose)).1, checked⟩

def repeated : Program where
  statements := [⟨.text "noise", .text "Is it loud?"⟩, ⟨.text "noise", .text "Is it still loud?"⟩]
  results := [⟨.text "case", .text "Open the case."⟩, ⟨.text "fan", .text ""⟩,
    ⟨.text "fan", .text "Replace the fan."⟩]
  rules := [⟨.leaf ⟨.text "noise", false⟩, .text "fan"⟩,
    ⟨.node .or (.leaf ⟨.text "noise", false⟩) (.leaf ⟨.text "noise", true⟩), .text "case"⟩,
    ⟨.leaf ⟨.text "noise", false⟩, .text "fan"⟩, ⟨.leaf ⟨.text "noise", true⟩, .text "case"⟩]

theorem select_checked_repeated : repeated.Named ∧ repeated.checkReferences = .ok () ∧
    repeated.select [("noise", .text "yes")] = .ok (some (.text "")) ∧
    ∃ declaration, FirstDeclared repeated.results (.text "fan") declaration ∧ declaration.value = .text "" := by
  have named : repeated.Named := by decide
  have checked : repeated.checkReferences = .ok () := by decide
  obtain ⟨_, _, last, _⟩ := select_checked.1 repeated named checked [("noise", .text "yes")]
  obtain ⟨declaration, first, selected⟩ := last (repeated.rules.take 2) ⟨.leaf ⟨.text "noise", false⟩, .text "fan"⟩
    (by decide)
  have text : repeated.select [("noise", .text "yes")] = .ok (some (.text "")) := by decide
  have same : some declaration.value = some (.text "") := Except.ok.inj (selected.symm.trans text)
  exact ⟨named, checked, text, declaration, first, Option.some.inj same⟩

end Program

end Triage
