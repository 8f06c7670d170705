import Triage.Proofs.Report.Inventory

namespace Triage

namespace Program

structure Shuffled (p q : Program) : Prop where
  statements : p.statements.Perm q.statements
  results : p.results.Perm q.results
  rules : p.rules.Perm q.rules

def withRules (p : Program) (rules : List Rule) : Program := { p with rules := rules }

variable {p q : Program} {more : List Rule}

theorem Named.shuffled (named : p.Named) (shuffled : p.Shuffled q) : q.Named := by
  rw [named_iff] at named ⊢
  obtain ⟨statements, results, mentions, outcomes⟩ := named
  exact ⟨fun declaration member => statements declaration (shuffled.statements.mem_iff.mpr member),
    fun declaration member => results declaration (shuffled.results.mem_iff.mpr member),
    fun rule member => mentions rule (shuffled.rules.mem_iff.mpr member),
    fun rule member => outcomes rule (shuffled.rules.mem_iff.mpr member)⟩

theorem Named.joined (first : p.Named) (second : (p.withRules more).Named) : (p.withRules (p.rules ++ more)).Named where
  statements := first.statements
  results := first.results
  mentions := List.forall_mem_append.mpr ⟨first.mentions, second.mentions⟩
  outcomes := List.forall_mem_append.mpr ⟨first.outcomes, second.outcomes⟩

theorem uses_joined : (p.withRules (p.rules ++ more)).Uses name ↔ p.Uses name ∨ (p.withRules more).Uses name := by
  simp [Uses, withRules, or_and_right, exists_or]

theorem leads_joined : (p.withRules (p.rules ++ more)).Leads name ↔ p.Leads name ∨ (p.withRules more).Leads name := by
  simp [Leads, withRules, or_and_right, exists_or]

end Program

namespace Report

variable {p q : Program} {more : List Rule} {report first second both : Report}

def countOf (report : Report) (name : Datum) : Nat := (report.usage.lookup name).getD 0

namespace Account

theorem countOf_eq (account : Account p report) (name : Datum) : report.countOf name = p.usesOf name := by
  unfold countOf
  rw [account.usage]
  by_cases used : name ∈ report.referenced
  · rw [List.lookup_graph _ used, Option.getD_some]
  · have none : p.usesOf name = 0 := by
      rw [account.referenced.members, ← Program.usesOf_pos] at used
      omega
    rw [List.lookup_eq_none_iff.mpr, Option.getD_none, none]
    intro entry member
    obtain ⟨other, listed, rfl⟩ := List.mem_map.mp member
    have other_ne : name ≠ other := by
      intro same
      subst same
      exact used listed
    exact bne_iff_ne.mpr other_ne

theorem unique (one : Account p first) (other : Account p second) : first = second := by
  have referenced := one.referenced.unique other.referenced
  have usage : first.usage = second.usage := by rw [one.usage, other.usage, referenced]
  have undefinedStatements := one.undefinedStatements.unique other.undefinedStatements
  have unusedStatements := one.unusedStatements.unique other.unusedStatements
  have duplicateStatements := one.duplicateStatements.unique other.duplicateStatements
  have undefinedResults := one.undefinedResults.unique other.undefinedResults
  have unusedResults := one.unusedResults.unique other.unusedResults
  have duplicateResults := one.duplicateResults.unique other.duplicateResults
  have depth : first.depth = second.depth := by
    apply eq_of_forall_ge_iff
    intro bound
    rw [one.depth, other.depth]
  have announced : first.announcements = second.announcements := by
    simp only [announcements, undefinedStatements, unusedStatements, duplicateStatements, undefinedResults,
      unusedResults, duplicateResults, depth]
  have warnings : first.warnings = second.warnings := by rw [one.warnings, other.warnings, announced]
  have totals := And.intro (one.statements.trans other.statements.symm)
    (And.intro (one.results.trans other.results.symm) (one.rules.trans other.rules.symm))
  have nodes := one.nodes.trans other.nodes.symm
  cases first
  cases second
  simp only [mk.injEq]
  exact ⟨totals.1, totals.2.1, totals.2.2, usage, undefinedStatements, unusedStatements, duplicateStatements,
    undefinedResults, unusedResults, duplicateResults, depth, nodes, warnings⟩

theorem shuffled (account : Account p report) (shuffled : p.Shuffled q) : Account q report := by
  have uses : ∀ name, p.Uses name ↔ q.Uses name := fun name =>
    exists_congr fun rule => and_congr_left' shuffled.rules.mem_iff
  have leads : ∀ name, p.Leads name ↔ q.Leads name := fun name =>
    exists_congr fun rule => and_congr_left' shuffled.rules.mem_iff
  have statements : ∀ name, Declares p.statements name ↔ Declares q.statements name := fun name =>
    exists_congr fun declaration => and_congr_left' shuffled.statements.mem_iff
  have results : ∀ name, Declares p.results name ↔ Declares q.results name := fun name =>
    exists_congr fun declaration => and_congr_left' shuffled.results.mem_iff
  have twice : ∀ {declarations others : List Declaration}, declarations.Perm others →
      ∀ name, DeclaredTwice declarations name ↔ DeclaredTwice others name := by
    intro declarations others perm name
    unfold DeclaredTwice
    rw [(perm.map Declaration.name).count_eq]
  have counts : p.usesOf = q.usesOf := funext fun name => shuffled.rules.countP_eq _
  exact {
    statements := account.statements.trans shuffled.statements.length_eq
    results := account.results.trans shuffled.results.length_eq
    rules := account.rules.trans shuffled.rules.length_eq
    referenced := account.referenced.congr uses
    usage := counts ▸ account.usage
    undefinedStatements := account.undefinedStatements.congr fun name => and_congr (uses name) (not_congr (statements name))
    unusedStatements := account.unusedStatements.congr fun name => and_congr (statements name) (not_congr (uses name))
    duplicateStatements := account.duplicateStatements.congr (twice shuffled.statements)
    undefinedResults := account.undefinedResults.congr fun name => and_congr (leads name) (not_congr (results name))
    unusedResults := account.unusedResults.congr fun name => and_congr (results name) (not_congr (leads name))
    duplicateResults := account.duplicateResults.congr (twice shuffled.results)
    depth := fun bound => (account.depth bound).trans (forall_congr' fun rule => imp_congr_left shuffled.rules.mem_iff)
    nodes := account.nodes.trans (shuffled.rules.map _).sum_nat
    warnings := account.warnings }

end Account

structure Joins (first second both : Report) : Prop where
  counts : ∀ name, both.countOf name = first.countOf name + second.countOf name
  nodes : both.nodes = first.nodes + second.nodes
  depth : both.depth = max first.depth second.depth
  undefinedStatements : ∀ name, name ∈ both.undefinedStatements ↔
    name ∈ first.undefinedStatements ∨ name ∈ second.undefinedStatements
  undefinedResults : ∀ name, name ∈ both.undefinedResults ↔
    name ∈ first.undefinedResults ∨ name ∈ second.undefinedResults
  unusedStatements : ∀ name, name ∈ both.unusedStatements ↔
    name ∈ first.unusedStatements ∧ name ∈ second.unusedStatements
  unusedResults : ∀ name, name ∈ both.unusedResults ↔
    name ∈ first.unusedResults ∧ name ∈ second.unusedResults

section Joined

variable {names one other : List Datum} {used more all declared : Datum → Prop}

theorem undefined_joins (joined : ∀ name, all name ↔ used name ∨ more name)
    (first : Datum.Lists one fun name => used name ∧ ¬declared name)
    (second : Datum.Lists other fun name => more name ∧ ¬declared name)
    (both : Datum.Lists names fun name => all name ∧ ¬declared name) (name : Datum) :
    name ∈ names ↔ name ∈ one ∨ name ∈ other := by
  rw [both.members, first.members, second.members, joined]
  exact or_and_right

theorem unused_joins (joined : ∀ name, all name ↔ used name ∨ more name)
    (first : Datum.Lists one fun name => declared name ∧ ¬used name)
    (second : Datum.Lists other fun name => declared name ∧ ¬more name)
    (both : Datum.Lists names fun name => declared name ∧ ¬all name) (name : Datum) :
    name ∈ names ↔ name ∈ one ∧ name ∈ other := by
  rw [both.members, first.members, second.members, joined, not_or]
  exact and_and_left

end Joined

theorem Account.joins (one : Account p first) (other : Account (p.withRules more) second)
    (all : Account (p.withRules (p.rules ++ more)) both) : Joins first second both := by
  constructor
  case counts =>
    intro name
    rw [one.countOf_eq, other.countOf_eq, all.countOf_eq]
    exact List.countP_append
  case nodes =>
    rw [one.nodes, other.nodes, all.nodes]
    simp [Program.withRules]
  case depth =>
    apply eq_of_forall_ge_iff
    intro bound
    rw [all.depth, max_le_iff, one.depth, other.depth]
    exact List.forall_mem_append
  case undefinedStatements =>
    exact undefined_joins (fun _ => Program.uses_joined) one.undefinedStatements other.undefinedStatements
      all.undefinedStatements
  case undefinedResults =>
    exact undefined_joins (fun _ => Program.leads_joined) one.undefinedResults other.undefinedResults all.undefinedResults
  case unusedStatements =>
    exact unused_joins (fun _ => Program.uses_joined) one.unusedStatements other.unusedStatements all.unusedStatements
  case unusedResults =>
    exact unused_joins (fun _ => Program.leads_joined) one.unusedResults other.unusedResults all.unusedResults

-- A report does not depend on order, and it is put together from the reports on two parts of the rules.
theorem ofProgram_composes :
    (∀ p q : Program, p.Named → p.Shuffled q → ∃ report, ofProgram p = .ok report ∧ ofProgram q = .ok report) ∧
    ∀ (p : Program) (more : List Rule), p.Named → (p.withRules more).Named → ∃ first second both,
      ofProgram p = .ok first ∧ ofProgram (p.withRules more) = .ok second ∧
        ofProgram (p.withRules (p.rules ++ more)) = .ok both ∧ Joins first second both := by
  constructor
  · intro p q named shuffled
    obtain ⟨report, made, account⟩ := ofProgram_account named
    obtain ⟨other, remade, otherAccount⟩ := ofProgram_account (named.shuffled shuffled)
    have same := (account.shuffled shuffled).unique otherAccount
    exact ⟨report, made, same ▸ remade⟩
  · intro p more named moreNamed
    obtain ⟨first, madeFirst, one⟩ := ofProgram_account named
    obtain ⟨second, madeSecond, other⟩ := ofProgram_account moreNamed
    obtain ⟨both, madeBoth, all⟩ := ofProgram_account (named.joined moreNamed)
    exact ⟨first, second, both, madeFirst, madeSecond, madeBoth, one.joins other all⟩

def scrambled : Program where
  statements := [⟨.text "noise", .text "Is it loud?"⟩, ⟨.text "colour", .text "Is it red?"⟩,
    ⟨.text "age", .text "Is it old?"⟩, ⟨.text "noise", .text "Does it rattle?"⟩]
  results := [⟨.text "fan", .text "Clean the fan."⟩, ⟨.text "case", .text "Open the case."⟩]
  rules := [⟨.leaf ⟨.text "smell", false⟩, .text "disk"⟩,
    ⟨.node .and (.leaf ⟨.text "noise", false⟩) (.leaf ⟨.text "heat", true⟩), .text "board"⟩]

def reversed : Program where
  statements := scrambled.statements.reverse
  results := scrambled.results.reverse
  rules := scrambled.rules.reverse

def addedRules : List Rule := [⟨.node .or (.leaf ⟨.text "noise", true⟩) (.leaf ⟨.text "age", false⟩), .text "fan"⟩]

theorem ofProgram_composes_scrambled :
    (scrambled.Named ∧ scrambled.Shuffled reversed ∧
      ∃ report, ofProgram scrambled = .ok report ∧ ofProgram reversed = .ok report) ∧
    (scrambled.withRules addedRules).Named ∧ ∃ first second both, ofProgram scrambled = .ok first ∧
      ofProgram (scrambled.withRules addedRules) = .ok second ∧
      ofProgram (scrambled.withRules (scrambled.rules ++ addedRules)) = .ok both ∧ Joins first second both ∧
      both.countOf (.text "noise") = first.countOf (.text "noise") + second.countOf (.text "noise") := by
  have named : scrambled.Named := by decide
  have moreNamed : (scrambled.withRules addedRules).Named := by decide
  have shuffled : scrambled.Shuffled reversed :=
    ⟨(List.reverse_perm _).symm, (List.reverse_perm _).symm, (List.reverse_perm _).symm⟩
  obtain ⟨report, made, remade⟩ := ofProgram_composes.1 scrambled reversed named shuffled
  obtain ⟨first, second, both, madeFirst, madeSecond, madeBoth, joins⟩ :=
    ofProgram_composes.2 scrambled addedRules named moreNamed
  exact ⟨⟨named, shuffled, report, made, remade⟩, moreNamed, first, second, both, madeFirst, madeSecond, madeBoth,
    joins, joins.counts _⟩

end Report

end Triage
