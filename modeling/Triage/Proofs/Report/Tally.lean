import Triage.Proofs.Report.Inventory

namespace Triage.Report

variable {p : Program} {report : Report}

structure Tallies (p : Program) (report : Report) : Prop where
  counted : ∀ name uses, (name, uses) ∈ report.usage ↔ p.Uses name ∧ uses = p.usesOf name
  once : (report.usage.map Prod.fst).Nodup
  positive : ∀ entry ∈ report.usage, 0 < entry.2
  measured : ∃ metrics, (p.rules.mapM fun rule => rule.expression.metrics) = .ok metrics ∧
    report.nodes = (metrics.map Metrics.nodes).sum ∧ (∀ m ∈ metrics, m.depth ≤ report.depth) ∧
    (metrics = [] ∧ report.depth = 0 ∨ ∃ m ∈ metrics, m.depth = report.depth)

namespace Account

theorem mem_usage (account : Account p report) (name : Datum) (uses : Nat) :
    (name, uses) ∈ report.usage ↔ p.Uses name ∧ uses = p.usesOf name := by
  rw [account.usage]
  simp only [List.mem_map, Prod.mk.injEq, account.referenced.members]
  constructor
  · intro entry
    obtain ⟨other, mentioned, rfl, rfl⟩ := entry
    exact ⟨mentioned, rfl⟩
  · intro used
    exact ⟨name, used.1, rfl, used.2.symm⟩

-- The greatest height is that of some rule, as no height is 0.
theorem depth_attained (account : Account p report) :
    p.rules = [] ∧ report.depth = 0 ∨ ∃ rule ∈ p.rules, rule.expression.height = report.depth := by
  have bounds := (account.depth report.depth).mp (Nat.le_refl _)
  by_contra none
  rw [not_or, not_exists] at none
  obtain ⟨some, apart⟩ := none
  have lower : report.depth ≤ report.depth - 1 := by
    apply (account.depth _).mpr
    intro rule member
    have bound := bounds rule member
    have unlike : rule.expression.height ≠ report.depth := fun same => apart rule ⟨member, same⟩
    omega
  have zero : report.depth = 0 := by omega
  apply some
  refine ⟨List.eq_nil_iff_forall_not_mem.mpr ?_, zero⟩
  intro rule member
  have bound := bounds rule member
  have high := rule.expression.height_pos
  omega

theorem tallies (account : Account p report) (named : p.Named) : Tallies p report := by
  constructor
  case counted => exact account.mem_usage
  case once => exact account.referenced.nodup
  case positive =>
    intro entry member
    obtain ⟨used, uses⟩ := (account.mem_usage entry.1 entry.2).mp member
    rw [uses]
    exact Program.usesOf_pos.mpr used
  case measured =>
    refine ⟨_, metrics_rules named, ?_, ?_, ?_⟩
    · rw [account.nodes, List.map_map]
      rfl
    · exact List.forall_mem_map.mpr ((account.depth report.depth).mp (Nat.le_refl _))
    · apply account.depth_attained.imp
      · intro none
        exact ⟨List.map_eq_nil_iff.mpr none.1, none.2⟩
      · intro some
        obtain ⟨rule, member, same⟩ := some
        exact ⟨_, List.mem_map_of_mem member, same⟩

end Account

-- What is measured of a tree agrees with a walk over its conditions, and what a report counts agrees
-- with the measures of its rules.
theorem ofProgram_tallies :
    (∀ e : Expr, e.proper = true → (∀ name, e.Mentions name → name.isKey = true) →
      ∃ asked m, e.conditions = .ok asked ∧ e.metrics = .ok m ∧ m.Sums asked) ∧
    ∀ p : Program, p.Named → ∃ report, ofProgram p = .ok report ∧ Tallies p report := by
  constructor
  · intro e proper keys
    exact Expr.metrics_conditions proper keys
  · intro p named
    obtain ⟨report, made, account⟩ := ofProgram_account named
    exact ⟨report, made, account.tallies named⟩

def leaning : Expr :=
  .node .or (.leaf ⟨.text "noise", false⟩) (.node .and (.leaf ⟨.text "heat", true⟩)
    (.node .or (.leaf ⟨.text "noise", true⟩) (.leaf ⟨.text "noise", false⟩)))

def repeated : Program where
  statements := [⟨.text "noise", .text "Is it loud?"⟩, ⟨.text "heat", .text "Is it hot?"⟩]
  results := [⟨.text "fan", .text "Clean the fan."⟩]
  rules := [⟨leaning, .text "fan"⟩, ⟨.leaf ⟨.text "noise", true⟩, .text "fan"⟩,
    ⟨.node .and (.leaf ⟨.text "smell", false⟩) (.leaf ⟨.text "smell", false⟩), .text "disk"⟩]

theorem ofProgram_tallies_repeated :
    (leaning.proper = true ∧ ∃ asked m, leaning.conditions = .ok asked ∧ leaning.metrics = .ok m ∧ m.Sums asked ∧
      asked.length = 4 ∧ m.depth = 4) ∧
    repeated.Named ∧ ∃ report, ofProgram repeated = .ok report ∧ Tallies repeated report ∧
      (Datum.text "noise", 2) ∈ report.usage ∧ (Datum.text "smell", 1) ∈ report.usage := by
  have texts : leaning.textual = true := by decide
  have keys : ∀ name, leaning.Mentions name → name.isKey = true := fun name mentions =>
    Datum.isKey_text (Expr.textual_iff.mp texts name mentions)
  have proper : leaning.proper = true := by decide
  obtain ⟨asked, m, walked, measured, sums⟩ := ofProgram_tallies.1 leaning proper keys
  have four : leaning.conditions.map List.length = .ok 4 := by decide
  have deep : leaning.metrics.map Metrics.depth = .ok 4 := by decide
  rw [walked] at four
  rw [measured] at deep
  have named : repeated.Named := by decide
  obtain ⟨report, made, tallies⟩ := ofProgram_tallies.2 repeated named
  have noise : repeated.Uses (.text "noise") ∧ 2 = repeated.usesOf (.text "noise") :=
    ⟨Program.usesOf_pos.mp (by decide), by decide⟩
  have smell : repeated.Uses (.text "smell") ∧ 1 = repeated.usesOf (.text "smell") :=
    ⟨Program.usesOf_pos.mp (by decide), by decide⟩
  exact ⟨⟨proper, asked, m, walked, measured, sums, Except.ok.inj four, Except.ok.inj deep⟩, named, report, made,
    tallies, (tallies.counted _ _).mpr noise, (tallies.counted _ _).mpr smell⟩

end Triage.Report
