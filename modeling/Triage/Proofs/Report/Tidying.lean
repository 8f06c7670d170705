import Triage.Proofs.Report.Inventory
import Triage.Proofs.Selection

namespace Triage

namespace Report

variable {p : Program} {report : Report} {rule : Rule} {answers : Answers}

def tidied (report : Report) (p : Program) : Program where
  statements := p.statements.filter fun declaration => declaration.name ∉ report.unusedStatements
  results := p.results.filter fun declaration => declaration.name ∉ report.unusedResults
  rules := p.rules.filter fun rule => rule.result ∉ report.undefinedResults

theorem declares_filter {keep : Declaration → Bool} {declarations : List Declaration}
    (declares : Declares (declarations.filter keep) name) : Declares declarations name := by
  obtain ⟨declaration, member, same⟩ := declares
  exact ⟨declaration, (List.mem_filter.mp member).1, same⟩

theorem tidied_named (named : p.Named) (report : Report) : (report.tidied p).Named := by
  constructor
  case statements =>
    intro name declares
    exact named.statements name (declares_filter declares)
  case results =>
    intro name declares
    exact named.results name (declares_filter declares)
  case mentions =>
    intro rule member
    exact named.mentions rule (List.mem_filter.mp member).1
  case outcomes =>
    intro rule member
    exact named.outcomes rule (List.mem_filter.mp member).1

theorem kept_iff (inventory : Inventory p report) (member : rule ∈ p.rules) :
    rule.result ∉ report.undefinedResults ↔ Declares p.results rule.result := by
  have leads : p.Leads rule.result := ⟨rule, member, rfl⟩
  rw [inventory.undefinedResults, not_and, not_not]
  exact ⟨fun declared => declared leads, fun declared _ => declared⟩

-- The result of a rule is used, so that none of its declarations is taken away.
theorem declared?_tidied (inventory : Inventory p report) (named : p.Named) (member : rule ∈ p.rules) :
    Program.declared? (report.tidied p).results rule.result = Program.declared? p.results rule.result := by
  have used : rule.result ∉ report.unusedResults := by
    rw [inventory.unusedResults, not_and, not_not]
    intro _
    exact ⟨rule, member, rfl⟩
  unfold Program.declared? tidied
  rw [List.find?_filter]
  congr 1
  funext declaration
  have alike := Datum.likeness_text (named.outcomes rule member) declaration.name
  by_cases here : declaration.name = rule.result
  · simp [here, used]
  · simp [alike, here]

-- A rule that is kept chooses as before; one that is dropped made no choice.
theorem choice?_tidied (inventory : Inventory p report) (named : p.Named) (member : rule ∈ p.rules) :
    (if rule.result ∉ report.undefinedResults then Program.choice? (report.tidied p).results answers rule else none) =
      Program.choice? p.results answers rule := by
  split
  · unfold Program.choice? Program.outcome?
    rw [declared?_tidied inventory named member]
  · rename_i dropped
    rw [kept_iff inventory member] at dropped
    apply Eq.symm
    apply (Program.choice?_eq_none named member).mpr
    intro applies
    exact dropped applies.2

theorem select_tidied (inventory : Inventory p report) (named : p.Named) (answers : Answers) :
    (report.tidied p).select answers = p.select answers := by
  have choices : (report.tidied p).rules.filterMap (Program.choice? (report.tidied p).results answers) =
      p.rules.filterMap (Program.choice? p.results answers) := by
    rw [show (report.tidied p).rules = p.rules.filter fun rule => rule.result ∉ report.undefinedResults from rfl,
      List.filterMap_filter]
    apply List.filterMap_congr
    intro rule member
    simpa using choice?_tidied inventory named member
  rw [Program.select_named (tidied_named named report), Program.select_named named, choices]

theorem rulesFired_tidied (inventory : Inventory p report) (named : p.Named) (answers : Answers) :
    ∃ firing, p.rulesFired answers = .ok firing ∧
      (report.tidied p).rulesFired answers = .ok (firing.filter fun rule => Declares p.results rule.result) := by
  refine ⟨_, Program.fired_named named.mentions answers, ?_⟩
  have firing := Program.fired_named (tidied_named named report).mentions answers
  unfold Program.rulesFired
  rw [firing]
  congr 1
  unfold tidied
  dsimp only
  rw [List.filter_filter, List.filter_filter]
  apply List.filter_congr
  intro rule member
  rw [decide_eq_decide.mpr (kept_iff inventory member), Bool.and_comm]

-- What a report finds can be acted on without harm: without the unused declarations and the rules
-- that lead nowhere the program selects the same outcome under all answers, and of the rules that
-- hold exactly those with a declared result are left.
theorem tidied_alike (named : p.Named) : ∃ report, ofProgram p = .ok report ∧ ∀ answers,
    (∃ outcome, p.select answers = .ok outcome ∧ (report.tidied p).select answers = .ok outcome) ∧
    ∃ firing, p.rulesFired answers = .ok firing ∧
      (report.tidied p).rulesFired answers = .ok (firing.filter fun rule => Declares p.results rule.result) := by
  obtain ⟨report, made, inventory⟩ := ofProgram_named named
  refine ⟨report, made, ?_⟩
  intro answers
  have outcome := Program.select_named named answers
  refine ⟨⟨_, outcome, ?_⟩, rulesFired_tidied inventory named answers⟩
  rw [select_tidied inventory named]
  exact outcome

def cluttered : Program where
  statements := [⟨.text "noise", .text "Is it loud?"⟩, ⟨.text "colour", .text "Is it red?"⟩]
  results := [⟨.text "case", .text "Open the case."⟩, ⟨.text "fan", .text "Clean the fan."⟩,
    ⟨.text "fan", .text "Replace the fan."⟩]
  rules := [⟨.leaf ⟨.text "noise", false⟩, .text "fan"⟩, ⟨.leaf ⟨.text "noise", false⟩, .text "disk"⟩,
    ⟨.leaf ⟨.text "noise", true⟩, .text "fan"⟩]

theorem tidied_alike_cluttered : cluttered.Named ∧ ∃ report, ofProgram cluttered = .ok report ∧
    report.unusedStatements = [.text "colour"] ∧ report.unusedResults = [.text "case"] ∧
    report.undefinedResults = [.text "disk"] ∧
    (report.tidied cluttered).select [("noise", .text "yes")] = .ok (some (.text "Clean the fan.")) := by
  have named : cluttered.Named := by decide
  obtain ⟨report, made, alike⟩ := tidied_alike named
  have lists : (ofProgram cluttered).map (fun report =>
      (report.unusedStatements, report.unusedResults, report.undefinedResults)) =
        .ok ([.text "colour"], [.text "case"], [.text "disk"]) := by decide
  rw [made] at lists
  obtain ⟨statements, results, undefined⟩ : report.unusedStatements = [.text "colour"] ∧
      report.unusedResults = [.text "case"] ∧ report.undefinedResults = [.text "disk"] := by
    simpa using Except.ok.inj lists
  have selected : cluttered.select [("noise", .text "yes")] = .ok (some (.text "Clean the fan.")) := by decide
  obtain ⟨⟨outcome, before, after⟩, _⟩ := alike [("noise", .text "yes")]
  rw [selected] at before
  exact ⟨named, report, made, statements, results, undefined, after.trans before.symm⟩

end Report

end Triage
