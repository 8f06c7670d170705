import Triage.Proofs.Report.Inventory

namespace Triage.Report

variable {p : Program} {report middle later : Report} {warning : List Char} {added more warnings : List (List Char)}

section Added

theorem addTo_new (new : warning ∉ warnings) : addTo warnings warning = warnings ++ [warning] := by
  rw [addTo, if_neg]
  rwa [List.contains_iff_mem]

theorem addTo_known (known : warning ∈ warnings) : addTo warnings warning = warnings := by
  rw [addTo, if_pos]
  rwa [List.contains_iff_mem]

theorem foldl_addTo (distinct : (warnings ++ added).Nodup) : added.foldl addTo warnings = warnings ++ added := by
  induction added generalizing warnings with
  | nil => rw [List.foldl_nil, List.append_nil]
  | cons warning added ih =>
      have new : warning ∉ warnings := fun known =>
        (List.nodup_append.mp distinct).2.2 warning known warning List.mem_cons_self rfl
      rw [List.append_cons] at distinct ⊢
      rw [List.foldl_cons, addTo_new new]
      exact ih distinct

structure Extends (report : Report) (added : List (List Char)) (later : Report) : Prop where
  distinct : later.warnings.Nodup
  earlier : report.warnings <+: later.warnings
  members : ∀ warning, warning ∈ later.warnings ↔ warning ∈ report.warnings ∨ warning ∈ added
  rest : later = { report with warnings := later.warnings }

theorem Extends.refl (distinct : report.warnings.Nodup) : Extends report [] report :=
  ⟨distinct, List.prefix_refl _, by simp, rfl⟩

theorem Extends.trans (first : Extends report added middle) (second : Extends middle more later) :
    Extends report (added ++ more) later where
  distinct := second.distinct
  earlier := first.earlier.trans second.earlier
  members := by
    intro warning
    rw [second.members, first.members, List.mem_append, or_assoc]
  rest := by rw [second.rest, first.rest]

theorem addWarning_extends (distinct : report.warnings.Nodup) (warning : List Char) :
    Extends report [warning] (report.addWarning warning) := by
  by_cases known : warning ∈ report.warnings
  · have same : report.addWarning warning = report := by rw [addWarning, addTo_known known]
    rw [same]
    refine ⟨distinct, List.prefix_refl _, ?_, rfl⟩
    intro other
    rw [List.mem_singleton, iff_self_or]
    intro here
    rwa [here]
  · have grown : (report.addWarning warning).warnings = report.warnings ++ [warning] := addTo_new known
    constructor
    case distinct =>
      rw [grown, ← List.concat_eq_append]
      exact distinct.concat known
    case earlier =>
      rw [grown]
      exact List.prefix_append _ _
    case members =>
      intro other
      rw [grown, List.mem_append]
    case rest => rfl

theorem addWarnings_extends (distinct : report.warnings.Nodup) (added : List (List Char)) :
    Extends report added (added.foldl addWarning report) := by
  induction added generalizing report with
  | nil => exact .refl distinct
  | cons warning added ih =>
      have step := addWarning_extends distinct warning
      exact step.trans (ih step.distinct)

end Added

structure Finding where
  title : String
  names : List Datum

def Finding.isFound (finding : Finding) : Bool := !finding.names.isEmpty

def Finding.message (finding : Finding) : List Char :=
  finding.title.toList ++ ": ".toList ++ ", ".toList.intercalate (finding.names.map Datum.display)

def findings (report : Report) : List Finding := [
  ⟨"Undefined statement references", report.undefinedStatements⟩,
  ⟨"Undefined result references", report.undefinedResults⟩,
  ⟨"Unused statements", report.unusedStatements⟩,
  ⟨"Unused results", report.unusedResults⟩,
  ⟨"Duplicate statement names", report.duplicateStatements⟩,
  ⟨"Duplicate result names", report.duplicateResults⟩]

def messages (report : Report) : List (List Char) := (report.findings.filter Finding.isFound).map Finding.message

def complexity (report : Report) : List (List Char) :=
  if 5 < report.depth then ["High expression complexity: max depth ".toList ++ Text.decimal report.depth] else []

structure Warns (p : Program) (report : Report) : Prop where
  account : Account p report
  told : report.warnings = report.messages ++ report.complexity
  distinct : report.warnings.Nodup
  quiet : report.warnings = [] ↔ (∀ finding ∈ report.findings, finding.names = []) ∧ report.depth ≤ 5

section Told

theorem commaSeparated_eq (items : List (List Char)) : Datum.commaSeparated items = ", ".toList.intercalate items := by
  fun_induction Datum.commaSeparated items with
  | case1 => rfl
  | case2 item => simp
  | case3 item items filled ih =>
      obtain ⟨next, items, rfl⟩ := List.exists_cons_of_ne_nil filled
      rw [ih]
      simp

theorem announcement_eq (finding : Finding) :
    announcement finding.title finding.names = ([finding].filter Finding.isFound).map Finding.message := by
  unfold announcement
  split
  · rename_i none
    simp [Finding.isFound, none]
  · rename_i some
    simp [Finding.isFound, some, Finding.message, commaSeparated_eq]

theorem messages_eq (findings : List Finding) :
    (findings.map fun finding => announcement finding.title finding.names).flatten =
      (findings.filter Finding.isFound).map Finding.message := by
  induction findings with
  | nil => rfl
  | cons finding findings ih =>
      rw [List.map_cons, List.flatten_cons, ih, announcement_eq, ← List.map_append, ← List.filter_append,
        List.singleton_append]

theorem announcements_eq (report : Report) : report.announcements = report.messages ++ report.complexity := by
  rw [messages, ← messages_eq, ← List.flatten_concat]
  rfl

def label (message : List Char) : List Char := message.takeWhile (· != ':')

theorem label_append {title : List Char} (plain : ':' ∉ title) (list : List Char) :
    label (title ++ ':' :: list) = title := by
  have inTitle : ∀ c ∈ title, (c != ':') = true := by
    intro c member
    apply bne_iff_ne.mpr
    intro same
    exact plain (same ▸ member)
  rw [label, List.takeWhile_append_of_pos inTitle, List.takeWhile_cons_of_neg (by simp), List.append_nil]

theorem label_message {finding : Finding} (plain : ':' ∉ finding.title.toList) :
    label finding.message = finding.title.toList := by
  unfold Finding.message
  rw [List.append_assoc]
  exact label_append plain _

theorem label_complexity (report : Report) :
    (report.complexity.map label).Sublist ["High expression complexity".toList] := by
  unfold complexity
  split
  · have title : "High expression complexity: max depth ".toList ++ Text.decimal report.depth =
        "High expression complexity".toList ++ ':' :: (" max depth ".toList ++ Text.decimal report.depth) := by simp
    rw [List.map_singleton, title, label_append (by decide)]
  · exact List.nil_sublist _

theorem label_messages (report : Report) :
    (report.messages.map label).Sublist (report.findings.map fun finding => finding.title.toList) := by
  have plain : ∀ finding ∈ report.findings, ':' ∉ finding.title.toList := by
    simp only [findings, List.forall_mem_cons]
    decide
  have same : report.messages.map label =
      (report.findings.filter Finding.isFound).map fun finding => finding.title.toList := by
    rw [messages, List.map_map]
    apply List.map_congr_left
    intro finding member
    exact label_message (plain finding (List.mem_filter.mp member).1)
  rw [same]
  exact List.filter_sublist.map _

-- What stands before the colon tells the messages apart.
theorem nodup_told (report : Report) : (report.messages ++ report.complexity).Nodup := by
  have titles : ((report.findings.map Finding.title ++ ["High expression complexity"]).map String.toList).Nodup := by
    apply List.Nodup.map (fun _ _ same => String.toList_injective same)
    simp only [findings, List.map_cons]
    decide
  rw [List.map_append, List.map_map] at titles
  apply List.Nodup.of_map label
  rw [List.map_append]
  exact ((label_messages report).append (label_complexity report)).nodup titles

theorem Account.warns (account : Account p report) : Warns p report := by
  have told : report.warnings = report.messages ++ report.complexity := by
    rw [account.warnings, announcements_eq]
    exact foldl_addTo (nodup_told report)
  constructor
  case account => exact account
  case told => exact told
  case distinct =>
    rw [told]
    exact nodup_told report
  case quiet =>
    rw [told, List.append_eq_nil_iff, messages, List.map_eq_nil_iff, List.filter_eq_nil_iff]
    have shallow : report.complexity = [] ↔ report.depth ≤ 5 := by
      rw [complexity, ite_eq_right_iff, ← Nat.not_lt]
      exact forall_congr' fun _ => iff_of_false (List.cons_ne_nil _ _) not_false
    have none : ∀ finding : Finding, ¬finding.isFound = true ↔ finding.names = [] := by
      simp [Finding.isFound]
    simp only [none, shallow]

end Told

-- The warnings of a report are complete and do not repeat themselves, whatever is added to them.
theorem ofProgram_warns (p : Program) (named : p.Named) : ∃ report, ofProgram p = .ok report ∧ Warns p report ∧
    ∀ added : List (List Char), Extends report added (added.foldl addWarning report) := by
  obtain ⟨report, made, account⟩ := ofProgram_account named
  have warns := account.warns
  exact ⟨report, made, warns, addWarnings_extends warns.distinct⟩

def neglected : Program where
  statements := [⟨.text "noise", .text "Is it loud?"⟩, ⟨.text "noise", .text "Does it rattle?"⟩]
  results := [⟨.text "fan", .text "Clean the fan."⟩, ⟨.text "fan", .text "Replace the fan."⟩]
  rules := [⟨.node .and (.leaf ⟨.text "heat", false⟩) (.node .and (.leaf ⟨.text "heat", true⟩)
    (.node .and (.leaf ⟨.text "heat", false⟩) (.node .or (.leaf ⟨.text "heat", true⟩)
      (.node .or (.leaf ⟨.text "heat", false⟩) (.leaf ⟨.text "heat", false⟩))))), .text "disk"⟩]

theorem ofProgram_warns_neglected : neglected.Named ∧ ∃ report, ofProgram neglected = .ok report ∧ Warns neglected report ∧
    report.warnings.map String.ofList = ["Undefined statement references: heat", "Undefined result references: disk",
      "Unused statements: noise", "Unused results: fan", "Duplicate statement names: noise", "Duplicate result names: fan",
      "High expression complexity: max depth 6"] ∧
    Extends report ["Unused results: fan".toList, "No title".toList, "No title".toList]
      (["Unused results: fan".toList, "No title".toList, "No title".toList].foldl addWarning report) := by
  have named : neglected.Named := by decide
  obtain ⟨report, made, warns, grown⟩ := ofProgram_warns neglected named
  have told : (ofProgram neglected).map (fun report => report.warnings.map String.ofList) = .ok [
      "Undefined statement references: heat", "Undefined result references: disk", "Unused statements: noise",
      "Unused results: fan", "Duplicate statement names: noise", "Duplicate result names: fan",
      "High expression complexity: max depth 6"] := by decide
  rw [made] at told
  exact ⟨named, report, made, warns, Except.ok.inj told, grown _⟩

end Triage.Report
