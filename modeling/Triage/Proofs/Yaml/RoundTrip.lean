import Triage.Exchange
import Triage.Proofs.Document
import Triage.Proofs.Program.Data
import Triage.Proofs.Report.Inventory
import Triage.Proofs.Yaml.Datum

namespace Triage

namespace Expr
open Yaml Yaml.Node

def foldsWell (indent : Nat) : Expr → Bool
  | .leaf ⟨.text s, _⟩ => Yaml.foldsWell indent s.toList
  | .leaf _ => false
  | .node _ left right => left.foldsWell (indent + indentWidth) && right.foldsWell (indent + indentWidth)
  | .foreign _ => false

theorem foldsWell_depth {e : Expr} (proper : e.proper = true) (texts : e.every Datum.isText = true)
    (measured : e.metrics = .ok m) (shallow : indent + indentWidth * m.depth < foldWidth + indentWidth) :
    e.foldsWell indent = true := by
  rw [every_iff] at texts
  induction e generalizing indent m with
  | leaf condition =>
      obtain ⟨statement, negated⟩ := condition
      obtain ⟨s, rfl⟩ := Datum.exists_text (texts statement (by simp))
      cases measured
      have bound : indent + indentWidth * 1 < foldWidth + indentWidth := shallow
      have narrow : indent < foldWidth := by omega
      rw [foldsWell, Yaml.foldsWell_narrow narrow]
  | node op left right ihLeft ihRight =>
      rw [Expr.proper, Bool.and_eq_true] at proper
      have inLeft : ∀ name, left.Mentions name → name.isText = true := fun name member => texts name (by simp [member])
      have inRight : ∀ name, right.Mentions name → name.isText = true := fun name member => texts name (by simp [member])
      obtain ⟨l, first, _⟩ := metrics_named inLeft
      obtain ⟨r, second, _⟩ := metrics_named inRight
      rw [metrics, first, second] at measured
      cases measured
      have bound : indent + indentWidth * (max l.depth r.depth + 1) < foldWidth + indentWidth := shallow
      simp only [indentWidth] at bound
      have here : left.foldsWell (indent + indentWidth) = true :=
        ihLeft proper.1 inLeft first (by simp only [indentWidth]; omega)
      have there : right.foldsWell (indent + indentWidth) = true :=
        ihRight proper.2 inRight second (by simp only [indentWidth]; omega)
      rw [foldsWell, here, there]
      rfl
  | foreign given => cases proper

def nameIndent (column : Nat) : Nat := column + indentWidth + indentWidth + indentWidth

theorem kept_document {e : Expr} (folds : e.foldsWell (nameIndent column) = true) : Kept column e.document := by
  induction e generalizing column with
  | leaf condition =>
      obtain ⟨statement, negated⟩ := condition
      cases statement with
      | text s =>
          have condition : KeptFields (column + indentWidth + indentWidth)
              [("variable", .text s), ("negated", .bool negated)] :=
            ⟨(by decide : areNames ["variable", "negated"] = true), by simp [kept_text s folds, kept_bool]⟩
          exact kept_record ⟨(by decide : areNames ["type", "condition"] = true),
            by simp [kept_word "condition" rfl, kept_record condition]⟩
      | _ => cases folds
  | node op left right ihLeft ihRight =>
      rw [foldsWell, Bool.and_eq_true] at folds
      have first : Kept (column + indentWidth) left.document := ihLeft folds.1
      have second : Kept (column + indentWidth) right.document := ihRight folds.2
      have connective : Kept (column + indentWidth) (.text op.name) := by
        cases op <;> exact kept_word _ rfl
      exact kept_record ⟨(by decide : areNames ["type", "operator", "left", "right"] = true),
        by simp [kept_word "logical" rfl, connective, first, second]⟩
  | foreign given => cases folds

end Expr

namespace Program
open Yaml Yaml.Node

variable {p : Program}

theorem unshared_document (proper : p.Proper) (texts : p.Every Datum.isText) (w : Walk) :
    w.through p.document = w := by
  classical
  have composed : Datum.Composed fun d => decide (Mirrors d) := by
    refine ⟨fun b => ?_, fun s => ?_, fun items each => ?_, fun fields distinct each => ?_⟩
    · exact decide_eq_true (mirrors_bool b)
    · exact decide_eq_true (mirrors_text s)
    · exact decide_eq_true (mirrors_list fun item member => of_decide_eq_true (each item member))
    · exact decide_eq_true (mirrors_record distinct fun field member => of_decide_eq_true (each field member))
  have mirrors := composed.document proper (texts.imp composed.ofText)
  exact (of_decide_eq_true mirrors).unshared w

theorem kept_shallow (text : name.isText = true) (shallow : column + indentWidth < foldWidth) : Kept column name := by
  obtain ⟨s, rfl⟩ := Datum.exists_text text
  exact kept_text s (Yaml.foldsWell_narrow shallow s.toList)

theorem kept_declarations {declarations : List Declaration}
    (each : ∀ declaration ∈ declarations, declaration.every Datum.isText = true) :
    Kept 0 (.list (declarations.map Document.ofDeclaration)) := by
  have parts : declarations.map Document.ofDeclaration =
      (declarations.map fun declaration => [("name", declaration.name), ("value", declaration.value)]).map .record := by
    rw [List.map_map]
    rfl
  rw [parts]
  refine kept_list fun item member => ?_
  obtain ⟨declaration, inList, rfl⟩ := List.mem_map.mp member
  obtain ⟨name, value⟩ := Bool.and_eq_true_iff.mp (each declaration inList)
  have keptName : Kept indentWidth declaration.name := kept_shallow name (by decide)
  have keptValue : Kept indentWidth declaration.value := kept_shallow value (by decide)
  exact ⟨(by decide : areNames ["name", "value"] = true), by simp [keptName, keptValue]⟩

-- The names in the rules fold well where the document of the program has them.
def FoldsWell (p : Program) : Prop := ∀ rule ∈ p.rules, rule.expression.foldsWell (Expr.nameIndent indentWidth) = true

instance (p : Program) : Decidable p.FoldsWell :=
  inferInstanceAs (Decidable (∀ rule ∈ p.rules, rule.expression.foldsWell (Expr.nameIndent indentWidth) = true))

theorem kept_rules (texts : p.Every Datum.isText) (folds : p.FoldsWell) :
    Kept 0 (.list (p.rules.map Rule.document)) := by
  have parts : p.rules.map Rule.document =
      (p.rules.map fun rule => [("expression", rule.expression.document), ("result", rule.result)]).map .record := by
    rw [List.map_map]
    rfl
  rw [parts]
  refine kept_list fun item member => ?_
  obtain ⟨rule, inRules, rfl⟩ := List.mem_map.mp member
  have expression := Expr.kept_document (folds rule inRules)
  have outcome : Kept indentWidth rule.result := kept_shallow (texts.outcomes rule inRules) (by decide)
  exact ⟨(by decide : areNames ["expression", "result"] = true), by simp [expression, outcome]⟩

def foldDepth : Nat := 36

theorem foldsWell_depth (proper : p.Proper) (texts : p.Every Datum.isText)
    (shallow : ∀ rule ∈ p.rules, ∀ m, rule.expression.metrics = .ok m → m.depth ≤ foldDepth) : p.FoldsWell := by
  intro rule member
  have named := texts.conditions rule member
  obtain ⟨m, measured, _⟩ := Expr.metrics_named (Expr.every_iff.mp named)
  have bound := shallow rule member m measured
  refine Expr.foldsWell_depth (proper rule member) named measured ?_
  simp only [foldDepth, Expr.nameIndent, indentWidth, foldWidth] at bound ⊢
  omega

theorem toYaml_document (proper : p.Proper) (texts : p.Every Datum.isText) :
    p.toYaml = .ok (Yaml.render p.document) := by
  have checked : Yaml.checked p.document = .ok p.document := by
    rw [Yaml.checked, unshared_document proper texts]
    rfl
  rw [toYaml, toDatum, Document.ofProgram_proper proper]
  simp only [refusing, Except.mapError, bind, Except.bind, checked]
  rfl

-- A program with nothing foreign in it whose data are texts is written as YAML and read back as it was, when
-- the names in its rules fold well.
theorem ofYaml_toYaml (proper : p.Proper) (texts : p.Every Datum.isText) (folds : p.FoldsWell) :
    ∃ text, p.toYaml = .ok text ∧ ofYaml text = .ok p := by
  have known : KeptFields 0 [("statements", .list (p.statements.map Document.ofDeclaration)),
      ("results", .list (p.results.map Document.ofDeclaration)), ("rules", .list (p.rules.map Rule.document))] :=
    ⟨(by decide : areNames ["statements", "results", "rules"] = true),
      by simp [kept_declarations texts.statements, kept_declarations texts.results, kept_rules texts folds]⟩
  have reread : ofYaml (Yaml.render p.document) = .ok p := by
    rw [ofYaml, document, read_writeDocument known]
    simp only [bind, Except.bind, ofDatum]
    rw [← document, Document.toProgram_document proper]
    rfl
  exact ⟨_, toYaml_document proper texts, reread⟩

-- Texts that look like other data, texts with marks, blanks, line breaks and escapes, and one that is folded.
def lookalikes : Program where
  statements := [
    ⟨.text "yes", .text "no"⟩, ⟨.text "~", .text "012"⟩, ⟨.text "2020-01-01", .text ""⟩, ⟨.text "a: b", .text " #c"⟩,
    ⟨.text "it's", .text "\"quoted\""⟩, ⟨.text "two\n\nlines ", .text "\t \x00\u00e9\u2028😀"⟩]
  results := [⟨.text "- a",
    .text "A text that is longer than a line may be, so that it is written as two lines, which are read as one again."⟩]
  rules := [⟨.node .and (.leaf ⟨.text "yes", true⟩) (.leaf ⟨.text "\t a", false⟩), .text "- a"⟩]

theorem ofYaml_toYaml_lookalikes : lookalikes.Proper ∧ lookalikes.Every Datum.isText ∧ lookalikes.FoldsWell ∧
    ∃ text, lookalikes.toYaml = .ok text ∧ ofYaml text = .ok lookalikes := by
  have proper : lookalikes.Proper := by decide
  have texts : lookalikes.Every Datum.isText := by decide
  have folds : lookalikes.FoldsWell := by decide
  exact ⟨proper, texts, folds, ofYaml_toYaml proper texts folds⟩

end Program

end Triage
