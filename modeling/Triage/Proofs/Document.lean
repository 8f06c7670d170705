import Triage.Document
import Triage.Proofs.Outcome
import Triage.Proofs.Program.Named

namespace Triage

def Expr.document : Expr → Datum
  | .leaf condition =>
      .record [
        ("type", .text "condition"),
        ("condition", .record [
          ("variable", condition.statement),
          ("negated", .bool condition.negated)])]
  | .node op left right =>
      .record [
        ("type", .text "logical"),
        ("operator", .text op.name),
        ("left", left.document),
        ("right", right.document)]
  | .foreign given => given

def Rule.document (rule : Rule) : Datum :=
  .record [("expression", rule.expression.document), ("result", rule.result)]

def Program.document (p : Program) : Datum :=
  .record [
    ("statements", .list (p.statements.map Document.ofDeclaration)),
    ("results", .list (p.results.map Document.ofDeclaration)),
    ("rules", .list (p.rules.map Rule.document))]

theorem Datum.record_keys {fields : List (String × Datum)} (distinct : (fields.map Prod.fst).Nodup) :
    ((fields.map fun (name, value) => (Datum.text name, value)).map Prod.fst).Nodup := by
  have names : ((fields.map Prod.fst).map Datum.text).Nodup :=
    List.Pairwise.map Datum.text (fun _ _ unlike same => unlike (Datum.text.inj same)) distinct
  simpa [Function.comp_def] using names

theorem Connective.ofDatum_name (op : Connective) : Connective.ofDatum (.text op.name) = .ok op := by
  cases op <;> rfl

namespace Expr

variable {e : Expr}

theorem toDatum_proper (proper : e.proper = true) : e.toDatum = .ok e.document := by
  induction e with
  | leaf condition => rfl
  | node op left right ihLeft ihRight =>
      rw [Expr.proper, Bool.and_eq_true] at proper
      rw [toDatum, ihLeft proper.1, ihRight proper.2]
      rfl
  | foreign given => cases proper

theorem ofDatum_leaf (condition : Condition) : ofDatum (document (.leaf condition)) = .ok (.leaf condition) := by
  rw [ofDatum, document, Datum.record, ofDatumIn]
  rfl

-- How a logical node is read, whatever other fields there are and in whatever order.
theorem ofDatum_logical (form : Datum.field? fields "type" = some (.text "logical"))
    (connective : Datum.field? fields "operator" = some (.text (Connective.name op)))
    (first : Datum.field? fields "left" = some l) (second : Datum.field? fields "right" = some r) :
    ofDatum (.object fields) = (do return .node op (← ofDatum l) (← ofDatum r)) := by
  have known : Connective.ofDatum (Datum.closed [] (.text op.name)) = .ok op := Connective.ofDatum_name op
  have reads : ofDatumIn [] (.object fields) = (do return .node op (← ofDatumIn [] l) (← ofDatumIn [] r)) := by
    rw [ofDatumIn]
    simp only [form, Option.getD_some, Datum.text.injEq, String.reduceEq, if_false, if_true, Document.require,
      connective]
    split
    · rename_i missing
      rw [first] at missing
      cases missing
    · rename_i inLeft
      rw [first] at inLeft
      cases inLeft
      split
      · rename_i missing
        rw [second] at missing
        cases missing
      · rename_i inRight
        rw [second] at inRight
        cases inRight
        simp only [bind, Except.bind, known]
  exact reads

theorem ofDatum_document (proper : e.proper = true) : ofDatum e.document = .ok e := by
  induction e with
  | leaf condition => exact ofDatum_leaf condition
  | node op left right ihLeft ihRight =>
      rw [Expr.proper, Bool.and_eq_true] at proper
      have parts : ofDatum (document (.node op left right)) =
          (do return .node op (← ofDatum left.document) (← ofDatum right.document)) :=
        ofDatum_logical rfl rfl rfl rfl
      rw [parts, ihLeft proper.1, ihRight proper.2]
      rfl
  | foreign given => cases proper

end Expr

namespace Document

variable {p : Program} {rule : Rule}

theorem ofRule_proper (proper : rule.expression.proper = true) : ofRule rule = .ok rule.document := by
  rw [ofRule, Expr.toDatum_proper proper]
  rfl

theorem ofProgram_proper (proper : p.Proper) : ofProgram p = .ok p.document := by
  have rules : p.rules.mapM ofRule = .ok (p.rules.map Rule.document) := by
    rw [mapM_eq_ok, List.forall₂_map_right_iff, List.forall₂_same]
    exact fun rule member => ofRule_proper (proper rule member)
  rw [ofProgram, rules]
  rfl

theorem readDeclaration_ofDeclaration (declaration : Declaration) :
    readDeclaration (ofDeclaration declaration) = .ok declaration := rfl

theorem readRule_document (proper : rule.expression.proper = true) : readRule rule.document = .ok rule := by
  have expression := Expr.ofDatum_document proper
  have parts : readRule rule.document = do return ⟨← Expr.ofDatum rule.expression.document, rule.result⟩ := rfl
  rw [parts, expression]
  rfl

theorem readMembers_map {readOne : Datum → Except Refusal α} {write : α → Datum} {values : List α}
    (found : Datum.field? fields name = some (.list (values.map write)))
    (each : ∀ value ∈ values, readOne (write value) = .ok value) :
    readMembers fields name readOne = .ok values := by
  have items : (values.map write).mapM readOne = .ok values := by
    rw [mapM_eq_ok, List.forall₂_map_left_iff, List.forall₂_same]
    exact each
  rw [readMembers, found]
  exact items

theorem toProgram_document (proper : p.Proper) : toProgram p.document = .ok p := by
  obtain ⟨fields, record⟩ : ∃ fields, p.document = .object fields := ⟨_, rfl⟩
  have statements : readMembers fields "statements" readDeclaration = .ok p.statements := by
    cases record
    exact readMembers_map rfl fun declaration _ => readDeclaration_ofDeclaration declaration
  have results : readMembers fields "results" readDeclaration = .ok p.results := by
    cases record
    exact readMembers_map rfl fun declaration _ => readDeclaration_ofDeclaration declaration
  have rules : readMembers fields "rules" readRule = .ok p.rules := by
    cases record
    exact readMembers_map rfl fun rule member => readRule_document (proper rule member)
  rw [record, toProgram]
  simp only [Datum.opened, statements, results, rules]
  rfl

end Document

end Triage
