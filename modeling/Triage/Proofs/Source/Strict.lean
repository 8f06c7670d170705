import Triage.Proofs.Program.References
import Triage.Proofs.Report.Inventory
import Triage.Proofs.Source.Named

namespace Triage

namespace Report

variable {p : Program} {report : Report} {rule : Rule}

def Clean (report : Report) : Prop := report.undefinedStatements = [] ∧ report.undefinedResults = []

def Flags (report : Report) (rule : Rule) : Prop :=
  (∃ name ∈ report.undefinedStatements, rule.expression.Mentions name) ∨ rule.result ∈ report.undefinedResults

-- The name in a rule that is blamed, and the fault that says so: the leftmost undefined statement of
-- its conditions, or its undefined result when no condition has one.
inductive Blames (report : Report) (line : Nat) (rule : Rule) : Datum → Fault → Prop where
  | statement (parts : rule.expression.conditions = .ok (before ++ condition :: after))
      (defined : ∀ other ∈ before, other.statement ∉ report.undefinedStatements)
      (undefined : condition.statement ∈ report.undefinedStatements) :
      Blames report line rule condition.statement (.undeclaredStatement line condition.statement)
  | result (defined : ∀ name ∈ report.undefinedStatements, ¬rule.expression.Mentions name)
      (undefined : rule.result ∈ report.undefinedResults) :
      Blames report line rule rule.result (.undeclaredResult line rule.result)

theorem Blames.told (blames : report.Blames line rule name fault) :
    fault.kind = .danglingReference ∧ fault.location = ⟨some line, none, some Section.rules.opening⟩ ∧
      ∃ words ∈ [" references undeclared statement ", " references undeclared result "],
        fault.message = "Rule at line ".toList ++ Datum.integerText line ++ words.toList ++
          Fault.inQuotes name.display := by
  cases blames with
  | statement _ _ _ => exact ⟨rfl, rfl, _, .head _, rfl⟩
  | result _ _ => exact ⟨rfl, rfl, _, .tail _ (.head _), rfl⟩

theorem undefined_mentioned (inventory : Inventory p report) (member : rule ∈ p.rules)
    (mentions : rule.expression.Mentions name) :
    name ∈ report.undefinedStatements ↔ ¬Declares p.statements name := by
  rw [inventory.undefinedStatements]
  exact and_iff_right ⟨rule, member, mentions⟩

theorem undefined_result (inventory : Inventory p report) (member : rule ∈ p.rules) :
    rule.result ∈ report.undefinedResults ↔ ¬Declares p.results rule.result := by
  rw [inventory.undefinedResults]
  exact and_iff_right ⟨rule, member, rfl⟩

theorem flags_iff (inventory : Inventory p report) (member : rule ∈ p.rules) : report.Flags rule ↔ ¬p.Sound rule := by
  rw [Flags, Program.Sound, not_and_or, undefined_result inventory member, not_forall]
  refine or_congr (exists_congr fun name => ?_) Iff.rfl
  rw [Classical.not_imp]
  constructor
  · rintro ⟨listed, mentions⟩
    exact ⟨mentions, (undefined_mentioned inventory member mentions).mp listed⟩
  · rintro ⟨mentions, undeclared⟩
    exact ⟨(undefined_mentioned inventory member mentions).mpr undeclared, mentions⟩

theorem clean_iff (inventory : Inventory p report) : report.Clean ↔ ∀ rule ∈ p.rules, p.Sound rule := by
  constructor
  · rintro ⟨noStatement, noResult⟩ rule member
    rw [← not_not (a := p.Sound rule), ← flags_iff inventory member]
    simp [Flags, noStatement, noResult]
  · intro sound
    refine ⟨List.eq_nil_iff_forall_not_mem.mpr ?_, List.eq_nil_iff_forall_not_mem.mpr ?_⟩
    · intro name listed
      obtain ⟨⟨rule, member, mentions⟩, undeclared⟩ := (inventory.undefinedStatements name).mp listed
      exact undeclared ((sound rule member).1 name mentions)
    · intro name listed
      obtain ⟨⟨rule, member, rfl⟩, undeclared⟩ := (inventory.undefinedResults name).mp listed
      exact undeclared (sound rule member).2

theorem blames_dangling (inventory : Inventory p report) (member : rule ∈ p.rules)
    (dangling : Program.Dangling p line rule fault) : ∃ name, report.Blames line rule name fault := by
  cases dangling with
  | @statement before condition after parts declared undeclared =>
      have mentions : ∀ other ∈ before ++ condition :: after, rule.expression.Mentions other.statement :=
        fun other inside => (Expr.mentions_conditions parts).mpr ⟨other, inside, rfl⟩
      refine ⟨_, .statement parts (fun other earlier listed => ?_) ?_⟩
      · have undeclared := (undefined_mentioned inventory member (mentions other (by simp [earlier]))).mp listed
        exact undeclared (declared other earlier)
      · exact (undefined_mentioned inventory member (mentions condition (by simp))).mpr undeclared
  | result declared undeclared =>
      refine ⟨_, .result (fun name listed mentions => ?_) ((undefined_result inventory member).mpr undeclared)⟩
      exact (undefined_mentioned inventory member mentions).mp listed (declared name mentions)

-- The check fails exactly when something is undefined, at the first rule that uses such a name.
theorem checkReferences_report (named : p.Named) (proper : p.Proper) : ∃ report, ofProgram p = .ok report ∧
    (p.checkReferences = .ok () ↔ report.Clean) ∧
    ∀ failure, p.checkReferences = .error failure → ∃ earlier rule later, p.rules = earlier ++ rule :: later ∧
      (∀ other ∈ earlier, ¬report.Flags other) ∧ report.Flags rule ∧
        ∃ name fault, failure = .fault fault ∧ report.Blames (earlier.length + 1) rule name fault := by
  obtain ⟨report, made, inventory⟩ := ofProgram_named named
  refine ⟨report, made, ?_, fun failure failed => ?_⟩
  · rw [Program.checkReferences_eq_ok named proper, clean_iff inventory]
  · obtain ⟨earlier, rule, later, parts, sound, fault, rfl, dangling⟩ :=
      (Program.checkReferences_eq_error named proper).mp failed
    have among : ∀ other ∈ earlier, other ∈ p.rules := fun other member => by simp [parts, member]
    have member : rule ∈ p.rules := by simp [parts]
    refine ⟨earlier, rule, later, parts, fun other first flags => ?_, ?_, ?_⟩
    · exact (flags_iff inventory (among other first)).mp flags (sound other first)
    · exact (flags_iff inventory member).mpr dangling.unsound
    · obtain ⟨name, blames⟩ := blames_dangling inventory member dangling
      exact ⟨name, fault, rfl, blames⟩

end Report

namespace Source

variable {p : Program}

theorem readAs_loose_eq_ok : readAs false text = .ok p ↔ read text = .ok p := mapError_eq_ok

theorem readAs_loose_eq_error {failure : Failure} :
    readAs false text = .error failure ↔ ∃ fault, read text = .error fault ∧ failure = .fault fault :=
  mapError_eq_error

theorem readAs_strict_bind (text : List Char) :
    readAs true text = (do
      let program ← readAs false text
      match program.checkReferences with
      | .ok () => return program
      | .error (.fault fault) => throw (.fault (.inSource fault))
      | .error failure => throw failure) := rfl

theorem readAs_strict_eq_ok : readAs true text = .ok p ↔ readAs false text = .ok p ∧ p.checkReferences = .ok () := by
  rw [readAs_strict_bind, bind_eq_ok]
  constructor
  · rintro ⟨program, loose, accepted⟩
    split at accepted
    · rename_i sound
      cases accepted
      exact ⟨loose, sound⟩
    · cases accepted
    · cases accepted
  · rintro ⟨loose, sound⟩
    exact ⟨p, loose, by rw [sound]; rfl⟩

theorem readAs_strict_eq_error {failure : Failure} : readAs true text = .error failure ↔
    readAs false text = .error failure ∨
      ∃ p fault, readAs false text = .ok p ∧ p.checkReferences = .error (.fault fault) ∧
        failure = .fault (.inSource fault) := by
  rw [readAs_strict_bind, bind_eq_error]
  refine or_congr_right ⟨?_, ?_⟩
  · rintro ⟨program, loose, failed⟩
    split at failed
    · cases failed
    · rename_i fault checked
      cases failed
      exact ⟨program, fault, loose, checked, rfl⟩
    · rename_i other apart checked
      -- What is read has texts for names, so that the check has nothing but faults to raise.
      obtain ⟨named, proper⟩ := read_named (readAs_loose_eq_ok.mp loose)
      obtain ⟨_, _, _, _, _, fault, rfl, _⟩ := (Program.checkReferences_eq_error named proper).mp checked
      exact absurd rfl (apart fault)
  · rintro ⟨program, fault, loose, checked, rfl⟩
    exact ⟨program, loose, by rw [checked]; rfl⟩

-- Strict reading gives what reading gives when the report has nothing undefined, it fails where
-- reading fails, and the check of references blames the first name in the first rule that the
-- report lists as undefined.
theorem strict_agrees :
    (∀ text p, readAs true text = .ok p ↔
      readAs false text = .ok p ∧ ∃ report, Report.ofProgram p = .ok report ∧
        report.undefinedStatements = [] ∧ report.undefinedResults = []) ∧
    (∀ text failure, readAs false text = .error failure → readAs true text = .error failure) ∧
    ∀ p : Program, p.Named → p.Proper → ∃ report, Report.ofProgram p = .ok report ∧
      ((∃ failure, p.checkReferences = .error failure) ↔
        report.undefinedStatements ≠ [] ∨ report.undefinedResults ≠ []) ∧
      ∀ failure, p.checkReferences = .error failure →
        ∃ earlier rule later, p.rules = earlier ++ rule :: later ∧
          (∀ other ∈ earlier, ¬report.Flags other) ∧ report.Flags rule ∧
          ∃ name fault, failure = .fault fault ∧ report.Blames (earlier.length + 1) rule name fault ∧
            fault.kind = .danglingReference ∧
            fault.location = ⟨some (earlier.length + 1 : Nat), none, some Section.rules.opening⟩ ∧
            ∃ words ∈ [" references undeclared statement ", " references undeclared result "],
              fault.message = "Rule at line ".toList ++ Datum.integerText (earlier.length + 1 : Nat) ++
                words.toList ++ Fault.inQuotes name.display := by
  refine ⟨fun text p => ?_, fun text failure failed => readAs_strict_eq_error.mpr (Or.inl failed), ?_⟩
  · rw [readAs_strict_eq_ok]
    refine and_congr_right fun loose => ?_
    obtain ⟨named, proper⟩ := read_named (readAs_loose_eq_ok.mp loose)
    obtain ⟨report, made, clean, _⟩ := Report.checkReferences_report named proper
    simp [made, clean, Report.Clean]
  · intro p named proper
    obtain ⟨report, made, clean, blamed⟩ := Report.checkReferences_report named proper
    refine ⟨report, made, ?_, fun failure failed => ?_⟩
    · rw [← not_and_or, ← Report.Clean, ← clean]
      cases p.checkReferences <;> simp
    · obtain ⟨earlier, rule, later, parts, before, here, name, fault, rfl, blames⟩ := blamed failure failed
      exact ⟨earlier, rule, later, parts, before, here, name, fault, rfl, blames, blames.told⟩

def straying : Program where
  statements := [⟨.text "noise", .text "Is it loud?"⟩]
  results := [⟨.text "fan", .text "Replace the fan."⟩]
  rules := [⟨.leaf ⟨.text "noise", false⟩, .text "fan"⟩,
    ⟨.node .and (.leaf ⟨.text "noise", true⟩)
        (.node .or (.leaf ⟨.text "heat", false⟩) (.leaf ⟨.text "dust", true⟩)),
      .text "case"⟩]

theorem strict_agrees_straying : straying.Named ∧ straying.Proper ∧
    straying.checkReferences = .error (.fault (.undeclaredStatement 2 (.text "heat"))) ∧
    ∃ report, Report.ofProgram straying = .ok report ∧
      (report.undefinedStatements ≠ [] ∨ report.undefinedResults ≠ []) ∧
      ∃ earlier rule later, straying.rules = earlier ++ rule :: later ∧
        (∀ other ∈ earlier, ¬report.Flags other) ∧ report.Flags rule ∧
        ∃ name, report.Blames (earlier.length + 1) rule name (.undeclaredStatement 2 (.text "heat")) := by
  have named : straying.Named := by decide
  have proper : straying.Proper := by decide
  have failed : straying.checkReferences = .error (.fault (.undeclaredStatement 2 (.text "heat"))) := by decide
  obtain ⟨report, made, undefined, blamed⟩ := strict_agrees.2.2 straying named proper
  obtain ⟨earlier, rule, later, parts, before, here, name, fault, same, blames, _⟩ := blamed _ failed
  cases same
  exact ⟨named, proper, failed, report, made, undefined.mp ⟨_, failed⟩,
    earlier, rule, later, parts, before, here, name, blames⟩

end Source

end Triage
