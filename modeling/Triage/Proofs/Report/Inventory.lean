import Triage.Proofs.Expr.Measure

namespace Triage

namespace Program

def Uses (p : Program) (name : Datum) : Prop := ∃ rule ∈ p.rules, rule.expression.Mentions name

def Leads (p : Program) (name : Datum) : Prop := ∃ rule ∈ p.rules, rule.result = name

def usesOf (p : Program) (name : Datum) : Nat := p.rules.countP fun rule => rule.expression.Mentions name

theorem usesOf_pos {p : Program} : 0 < p.usesOf name ↔ p.Uses name := by
  simp [usesOf, Uses, List.countP_pos_iff]

end Program

namespace Report

structure Inventory (p : Program) (report : Report) : Prop where
  referenced : ∀ name, name ∈ report.referenced ↔ p.Uses name
  undefinedStatements : ∀ name, name ∈ report.undefinedStatements ↔ p.Uses name ∧ ¬Declares p.statements name
  unusedStatements : ∀ name, name ∈ report.unusedStatements ↔ Declares p.statements name ∧ ¬p.Uses name
  undefinedResults : ∀ name, name ∈ report.undefinedResults ↔ p.Leads name ∧ ¬Declares p.results name
  unusedResults : ∀ name, name ∈ report.unusedResults ↔ Declares p.results name ∧ ¬p.Leads name

def announcement (title : String) (names : List Datum) : List (List Char) :=
  if names.isEmpty then []
  else [title.toList ++ ": ".toList ++ Datum.commaSeparated (names.map Datum.display)]

def announcements (report : Report) : List (List Char) := [
  announcement "Undefined statement references" report.undefinedStatements,
  announcement "Undefined result references" report.undefinedResults,
  announcement "Unused statements" report.unusedStatements,
  announcement "Unused results" report.unusedResults,
  announcement "Duplicate statement names" report.duplicateStatements,
  announcement "Duplicate result names" report.duplicateResults,
  depthWarning report.depth].flatten

def DeclaredTwice (declarations : List Declaration) (name : Datum) : Prop :=
  1 < (declarations.map Declaration.name).count name

-- All that a report says about a program. The depth is the greatest height of an expression, and 0
-- where there is no rule.
structure Account (p : Program) (report : Report) : Prop where
  statements : report.statements = p.statements.length
  results : report.results = p.results.length
  rules : report.rules = p.rules.length
  referenced : Datum.Lists report.referenced p.Uses
  usage : report.usage = report.referenced.map fun name => (name, p.usesOf name)
  undefinedStatements : Datum.Lists report.undefinedStatements fun name => p.Uses name ∧ ¬Declares p.statements name
  unusedStatements : Datum.Lists report.unusedStatements fun name => Declares p.statements name ∧ ¬p.Uses name
  duplicateStatements : Datum.Lists report.duplicateStatements (DeclaredTwice p.statements)
  undefinedResults : Datum.Lists report.undefinedResults fun name => p.Leads name ∧ ¬Declares p.results name
  unusedResults : Datum.Lists report.unusedResults fun name => Declares p.results name ∧ ¬p.Leads name
  duplicateResults : Datum.Lists report.duplicateResults (DeclaredTwice p.results)
  depth : ∀ bound, report.depth ≤ bound ↔ ∀ rule ∈ p.rules, rule.expression.height ≤ bound
  nodes : report.nodes = (p.rules.map fun rule => rule.expression.size).sum
  warnings : report.warnings = report.announcements.foldl addTo []

theorem Account.inventory {report : Report} (account : Account p report) : Inventory p report where
  referenced := account.referenced.members
  undefinedStatements := account.undefinedStatements.members
  unusedStatements := account.unusedStatements.members
  undefinedResults := account.undefinedResults.members
  unusedResults := account.unusedResults.members

section Lists

variable {names : List Datum}

theorem joined_texts (texts : ∀ name ∈ names, name.isText = true) :
    joined names = .ok (Datum.commaSeparated (names.map Datum.display)) := by
  apply bind_eq_ok.mpr
  refine ⟨names.map Datum.display, ?_, rfl⟩
  rw [mapM_eq_ok, List.forall₂_map_right_iff, List.forall₂_same]
  intro name member
  obtain ⟨s, rfl⟩ := Datum.exists_text (texts name member)
  rfl

theorem listing_texts (texts : ∀ name ∈ names, name.isText = true) (title : String) :
    listing title names = .ok (announcement title names) := by
  unfold listing announcement
  split
  · rfl
  · rw [joined_texts texts]
    rfl

theorem listed_texts (texts : ∀ name ∈ names, name.isText = true) (distinct : names.Nodup) (title : String)
    (members : ∀ name, name ∈ names ↔ property name) :
    ∃ list, listed title names = .ok (list, announcement title list) ∧ Datum.Lists list property := by
  obtain ⟨list, found, lists⟩ := Datum.sort?_lists texts distinct
  refine ⟨list, ?_, lists.congr members⟩
  have order : sorted names = .ok list := by rw [sorted, found]
  rw [listed, order]
  exact congrArg (· >>= fun message => .ok (list, message)) (listing_texts lists.texts title)

theorem listed_minus (texts : ∀ name ∈ names, name.isText = true) (distinct : names.Nodup) (title : String)
    (others : List Datum) (members : ∀ name, name ∈ names ∧ name ∉ others ↔ property name) :
    ∃ list, listed title (Datum.minus names others) = .ok (list, announcement title list) ∧
      Datum.Lists list property := by
  have kept : (Datum.minus names others).Nodup := distinct.filter _
  apply listed_texts _ kept
  · intro name
    rw [← members, Datum.mem_minus texts]
  · intro name member
    exact texts name ((Datum.mem_minus texts others).mp member).1

theorem listed_distinct (texts : ∀ name ∈ names, name.isText = true) (title : String) (others : List Datum)
    (members : ∀ name, name ∈ names ∧ name ∉ others ↔ property name) :
    ∃ list, listed title (Datum.minus (Datum.distinct names) others) = .ok (list, announcement title list) ∧
      Datum.Lists list property := by
  simp only [← Datum.mem_distinct texts] at members texts
  exact listed_minus texts (Datum.nodup_distinct names) title others members

theorem occurrences_text (text : name.isText = true) (names : List Datum) :
    Datum.occurrences names name = names.count name := by
  apply List.countP_congr
  intro other _
  rw [Datum.sameKey_text text, beq_iff_eq]

theorem listed_duplicates (texts : ∀ name ∈ names, name.isText = true) (title : String) :
    ∃ list, listed title (duplicates names) = .ok (list, announcement title list) ∧
      Datum.Lists list fun name => 1 < names.count name := by
  have inside : ∀ name, name ∈ duplicates names ↔ name ∈ names ∧ 1 < Datum.occurrences names name := by
    intro name
    rw [duplicates, List.mem_filter, Datum.mem_distinct texts, decide_eq_true_iff]
  have kept : (duplicates names).Nodup := (Datum.nodup_distinct names).filter _
  apply listed_texts _ kept
  · intro name
    rw [inside]
    constructor
    · intro found
      rw [← occurrences_text (texts name found.1)]
      exact found.2
    · intro twice
      have member := List.count_pos_iff.mp (Nat.zero_lt_of_lt twice)
      exact ⟨member, by rwa [occurrences_text (texts name member)]⟩
  · intro name member
    exact texts name ((inside name).mp member).1

end Lists

section Rules

variable {p : Program}

theorem metrics_rules (named : p.Named) :
    (p.rules.mapM fun rule => rule.expression.metrics) = .ok (p.rules.map fun rule => rule.expression.measure) := by
  rw [mapM_eq_ok, List.forall₂_map_right_iff, List.forall₂_same]
  intro rule member
  exact Expr.metrics_texts (named.mentions rule member)

theorem entries_rules (named : p.Named) :
    p.rules.mapM entry = .ok (p.rules.map fun rule => (rule.expression.measure, rule.result)) := by
  rw [mapM_eq_ok, List.forall₂_map_right_iff, List.forall₂_same]
  intro rule member
  rw [entry, Expr.metrics_texts (named.mentions rule member)]
  exact if_pos (Datum.isKey_text (named.outcomes rule member))

theorem leads_iff : p.Leads name ↔ name ∈ p.rules.map Rule.result := by
  simp [Program.Leads]

theorem mem_union_all {lists : List (List Datum)} (texts : ∀ list ∈ lists, ∀ name ∈ list, name.isText = true) :
    name ∈ lists.foldl Datum.union names ↔ name ∈ names ∨ ∃ list ∈ lists, name ∈ list := by
  induction lists generalizing names with
  | nil => simp
  | cons list lists ih =>
      obtain ⟨here, later⟩ := List.forall_mem_cons.mp texts
      rw [List.foldl_cons, ih later, Datum.mem_union here, or_assoc, List.exists_mem_cons_iff]

theorem nodup_union_all {names : List Datum} (distinct : (names.map Datum.keyForm).Nodup) (lists : List (List Datum)) :
    ((lists.foldl Datum.union names).map Datum.keyForm).Nodup := by
  induction lists generalizing names with
  | nil => exact distinct
  | cons list lists ih => exact ih (Datum.nodup_union distinct list)

theorem used_rules (named : p.Named) : ∃ used,
    ordered ((p.rules.map fun rule => rule.expression.measure).foldl (fun all m => Datum.union all m.names) []) = used ∧
      Datum.Lists used p.Uses := by
  have parts : (p.rules.map fun rule => rule.expression.measure).foldl (fun all m => Datum.union all m.names) [] =
      (p.rules.map fun rule => rule.expression.names).foldl Datum.union [] := by
    rw [List.foldl_map, List.foldl_map]
    rfl
  have texts : ∀ list ∈ p.rules.map fun rule => rule.expression.names, ∀ name ∈ list, name.isText = true := by
    intro list member name inside
    obtain ⟨rule, among, rfl⟩ := List.mem_map.mp member
    exact named.mentions rule among name (Expr.mentions_of_mem inside)
  have members : ∀ name, name ∈ (p.rules.map fun rule => rule.expression.names).foldl Datum.union [] ↔ p.Uses name := by
    intro name
    rw [mem_union_all texts, Program.Uses]
    simp only [List.not_mem_nil, false_or, List.mem_map, exists_exists_and_eq_and]
    exact exists_congr fun rule => and_congr_right fun member => Expr.mem_names (named.mentions rule member) name
  have usedTexts : ∀ name, p.Uses name → name.isText = true := by
    intro name uses
    obtain ⟨rule, among, mentions⟩ := uses
    exact named.mentions rule among name mentions
  have distinct := @nodup_union_all [] List.nodup_nil (p.rules.map fun rule => rule.expression.names)
  obtain ⟨used, found, lists⟩ := Datum.sort?_lists (fun name member => usedTexts name ((members name).mp member))
    (List.Nodup.of_map Datum.keyForm distinct)
  rw [parts]
  exact ⟨used, by rw [ordered, found, Option.getD_some], lists.congr members⟩

theorem usesOf_measures (named : p.Named) (text : name.isText = true) :
    usesOf (p.rules.map fun rule => rule.expression.measure) name = p.usesOf name := by
  rw [usesOf, List.countP_map]
  apply List.countP_congr
  intro rule member
  rw [Function.comp_apply, Datum.hasKey_text text, decide_eq_true_iff]
  exact Expr.mem_names (named.mentions rule member) name

theorem greatest_le {metrics : List Metrics} (start bound : Nat) :
    metrics.foldl (fun greatest m => max greatest m.depth) start ≤ bound ↔ start ≤ bound ∧ ∀ m ∈ metrics, m.depth ≤ bound := by
  induction metrics generalizing start with
  | nil => simp
  | cons m metrics ih => rw [List.foldl_cons, ih, max_le_iff, List.forall_mem_cons, and_assoc]

theorem total_sum (metrics : List Metrics) (start : Nat) :
    metrics.foldl (fun total m => total + m.nodes) start = start + (metrics.map Metrics.nodes).sum := by
  induction metrics generalizing start with
  | nil => rfl
  | cons m metrics ih => rw [List.foldl_cons, ih, List.map_cons, List.sum_cons, Nat.add_assoc]

end Rules

-- A program whose names are texts has a report, and this is what it says.
theorem ofProgram_account {p : Program} (named : p.Named) : ∃ report, ofProgram p = .ok report ∧ Account p report := by
  have declaredTexts : ∀ name ∈ p.statements.map Declaration.name, name.isText = true :=
    fun name member => named.statements name (declares_iff.mpr member)
  have resultTexts : ∀ name ∈ p.results.map Declaration.name, name.isText = true :=
    fun name member => named.results name (declares_iff.mpr member)
  have outcomeTexts : ∀ name ∈ p.rules.map Rule.result, name.isText = true := by
    simpa using named.outcomes
  have statements := Program.names_texts named.statements
  have results := Program.names_texts named.results
  have entries := entries_rules named
  obtain ⟨used, usedOrdered, usedLists⟩ := used_rules named
  have undeclaredMembers : ∀ name, name ∈ used ∧ name ∉ p.statements.map Declaration.name ↔
      p.Uses name ∧ ¬Declares p.statements name := by simp [usedLists.members, declares_iff]
  have unusedMembers : ∀ name, name ∈ p.statements.map Declaration.name ∧ name ∉ used ↔
      Declares p.statements name ∧ ¬p.Uses name := by simp [usedLists.members, declares_iff]
  have unknownMembers : ∀ name, name ∈ p.rules.map Rule.result ∧ name ∉ p.results.map Declaration.name ↔
      p.Leads name ∧ ¬Declares p.results name := by simp [leads_iff, declares_iff]
  have unreachedMembers : ∀ name, name ∈ p.results.map Declaration.name ∧ name ∉ p.rules.map Rule.result ↔
      Declares p.results name ∧ ¬p.Leads name := by simp [leads_iff, declares_iff]
  obtain ⟨_, undeclaredListed, undeclared⟩ :=
    listed_minus usedLists.texts usedLists.nodup "Undefined statement references" _ undeclaredMembers
  obtain ⟨_, unusedListed, unused⟩ := listed_distinct declaredTexts "Unused statements" _ unusedMembers
  obtain ⟨_, twiceListed, twice⟩ := listed_duplicates declaredTexts "Duplicate statement names"
  obtain ⟨_, unknownListed, unknown⟩ := listed_distinct outcomeTexts "Undefined result references" _ unknownMembers
  obtain ⟨_, unreachedListed, unreached⟩ := listed_distinct resultTexts "Unused results" _ unreachedMembers
  obtain ⟨_, againListed, again⟩ := listed_duplicates resultTexts "Duplicate result names"
  have counted : used.map (fun name => (name, usesOf (p.rules.map fun rule => rule.expression.measure) name)) =
      used.map fun name => (name, p.usesOf name) :=
    List.map_congr_left fun name member => by rw [usesOf_measures named (usedLists.texts name member)]
  have names : (used.map fun name => (name, p.usesOf name)).map Prod.fst = used := by
    simp [Function.comp_def]
  have measures : (p.rules.map fun rule => (rule.expression.measure, rule.result)).map Prod.fst =
      p.rules.map fun rule => rule.expression.measure := List.map_map
  have wanted : (p.rules.map fun rule => (rule.expression.measure, rule.result)).map Prod.snd =
      p.rules.map Rule.result := List.map_map
  refine ⟨_, by
    simp only [ofProgram, statements, results, entries, measures, wanted, usedOrdered, undeclaredListed, unknownListed,
      unusedListed, unreachedListed, twiceListed, againListed, counted, bind, Except.bind, pure, Except.pure]
    rfl, ?_⟩
  exact {
    statements := rfl
    results := rfl
    rules := rfl
    referenced := by rwa [referenced, names]
    usage := by rw [referenced, names]
    undefinedStatements := undeclared
    unusedStatements := unused
    duplicateStatements := twice
    undefinedResults := unknown
    unusedResults := unreached
    duplicateResults := again
    depth := fun bound => by simp [greatest_le, Expr.measure]
    nodes := by simp [total_sum, Expr.measure, Function.comp_def]
    warnings := rfl }

theorem ofProgram_named {p : Program} (named : p.Named) : ∃ report, ofProgram p = .ok report ∧ Inventory p report := by
  obtain ⟨report, made, account⟩ := ofProgram_account named
  exact ⟨report, made, account.inventory⟩

end Report

end Triage
