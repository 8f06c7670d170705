import Triage.Page.Script
import Triage.Proofs.Document
import Triage.Proofs.Program.Data
import Triage.Proofs.Selection

namespace Triage

theorem Reply.ofDatum?_eq_some {reply : Reply} : Reply.ofDatum? given = some reply ↔ given = .text reply.word := by
  unfold Reply.ofDatum?
  constructor
  · intro found
    split at found
    · rename_i yes
      cases found
      exact yes
    · split at found
      · rename_i no
        cases found
        exact no
      · cases found
  · rintro rfl
    cases reply <;> rfl

namespace Page

variable {answers : Answers} {condition : Condition} {e left right : Expr} {p : Program} {rule : Rule}

theorem formAnswer_eq_text {reply : Reply} :
    formAnswer answers (.text name) = .text reply.word ↔ answers.reply? name = some reply := by
  have each : ∀ found : Option (String × Datum), (found.map Prod.snd).getD .null = .text reply.word ↔
      (found.bind fun entry => Reply.ofDatum? entry.2) = some reply := by
    intro found
    cases found with
    | none => simp
    | some entry =>
        rw [Option.map_some, Option.getD_some, Option.bind_some]
        exact Reply.ofDatum?_eq_some.symm
  exact each _

theorem formAnswer_reply (answers : Answers) (name : String) (reply : Reply) :
    (formAnswer answers (.text name) == .text reply.word) = (answers.reply? name == some reply) := by
  rw [Bool.eq_iff_iff, beq_iff_eq, beq_iff_eq, formAnswer_eq_text]

theorem expressionHolds_leaf (text : condition.statement.isText = true) (answers : Answers) :
    condition.holds answers = .ok (expressionHolds answers (Expr.leaf condition).document) := by
  obtain ⟨statement, negated⟩ := condition
  obtain ⟨name, rfl⟩ := Datum.exists_text text
  rw [Expr.document, Datum.record, expressionHolds]
  cases negated with
  | false => exact congrArg Except.ok (formAnswer_reply answers name .yes).symm
  | true => exact congrArg Except.ok (formAnswer_reply answers name .no).symm

-- How a logical node is evaluated, whatever other fields there are and in whatever order.
theorem expressionHolds_logical (form : Datum.field? fields "type" = some (.text "logical"))
    (connective : Datum.field? fields "operator" = some (.text (Connective.name op)))
    (first : Datum.field? fields "left" = some l) (second : Datum.field? fields "right" = some r)
    (answers : Answers) :
    expressionHolds answers (.object fields) = op.apply (expressionHolds answers l) (expressionHolds answers r) := by
  rw [expressionHolds]
  simp only [form, connective, Option.some.injEq, Datum.text.injEq, String.reduceEq, if_false, if_true]
  have same (l r : Bool) : (if op.name = "AND" then l && r else l || r) = op.apply l r := by
    cases op <;> rfl
  rw [same]
  congr 1
  · split
    · rename_i inLeft
      rw [first] at inLeft
      cases inLeft
      rfl
    · rename_i missing
      rw [first] at missing
      cases missing
  · split
    · rename_i inRight
      rw [second] at inRight
      cases inRight
      rfl
    · rename_i missing
      rw [second] at missing
      cases missing

theorem expressionHolds_document (proper : e.proper = true) (texts : ∀ name, e.Mentions name → name.isText = true)
    (answers : Answers) : e.holds answers = .ok (expressionHolds answers e.document) := by
  induction e with
  | leaf condition => exact expressionHolds_leaf (texts _ (Expr.mentions_leaf.mpr rfl)) answers
  | node op left right ihLeft ihRight =>
      rw [Expr.proper, Bool.and_eq_true] at proper
      have first := ihLeft proper.1 fun name member => texts name (Expr.mentions_node.mpr (Or.inl member))
      have second := ihRight proper.2 fun name member => texts name (Expr.mentions_node.mpr (Or.inr member))
      have parts : expressionHolds answers (Expr.document (.node op left right)) =
          op.apply (expressionHolds answers left.document) (expressionHolds answers right.document) :=
        expressionHolds_logical rfl rfl rfl rfl answers
      rw [Expr.holds, first, second, parts]
      rfl
  | foreign given => cases proper

theorem foldl_overwrite (choose : α → Option β) (items : List α) (start : β) :
    items.foldl (fun outcome item => (choose item).getD outcome) start =
      (items.filterMap choose).getLast?.getD start := by
  induction items generalizing start with
  | nil => rfl
  | cons item items ih =>
      rw [List.foldl_cons, ih]
      cases here : choose item with
      | none => rw [List.filterMap_cons_none here, Option.getD_none]
      | some value =>
          rw [List.filterMap_cons_some here, List.getLast?_cons, Option.getD_some, Option.getD_some]

theorem find?_results (results : List Declaration) (text : name.isText = true) :
    (results.map Document.ofDeclaration).find? (fun result => property result "name" == name) =
      (Program.declared? results name).map Document.ofDeclaration := by
  rw [List.find?_map, Program.declared?]
  congr 2
  funext declaration
  have same : property (Document.ofDeclaration declaration) "name" = declaration.name := rfl
  rw [Function.comp_apply, same, Bool.eq_iff_iff, beq_iff_eq, decide_eq_true_eq, Datum.likeness_text text]

-- What a step of the script makes of the outcome is the choice of the rule, where it makes one.
theorem submit_step (results : List Declaration) (proper : rule.expression.proper = true)
    (texts : ∀ name, rule.expression.Mentions name → name.isText = true) (leads : rule.result.isText = true)
    (answers : Answers) (outcome : Datum) :
    (if expressionHolds answers (property rule.document "expression") then
      match (results.map Document.ofDeclaration).find? fun result =>
          property result "name" == property rule.document "result" with
      | some result => property result "value"
      | none => outcome
    else outcome) = (Program.choice? results answers rule).getD outcome := by
  have expression : property rule.document "expression" = rule.expression.document := rfl
  have result : property rule.document "result" = rule.result := rfl
  have holds : rule.expression.holds answers = .ok true ↔ expressionHolds answers rule.expression.document = true := by
    rw [expressionHolds_document proper texts, Except.ok.injEq]
  rw [expression, result, find?_results results leads, Program.choice?, Program.outcome?]
  simp only [holds]
  split
  · cases Program.declared? results rule.result <;> rfl
  · rfl

theorem submit_document (results : List Declaration) {rules : List Rule}
    (proper : ∀ rule ∈ rules, rule.expression.proper = true)
    (texts : ∀ rule ∈ rules, ∀ name, rule.expression.Mentions name → name.isText = true)
    (leads : ∀ rule ∈ rules, rule.result.isText = true) (answers : Answers) :
    submit (rules.map Rule.document) (results.map Document.ofDeclaration) answers =
      (rules.filterMap (Program.choice? results answers)).getLast?.getD .null := by
  rw [submit, List.foldl_map, ← foldl_overwrite]
  refine List.foldl_ext _ _ _ fun outcome rule member => ?_
  exact submit_step results (proper rule member) (texts rule member) (leads rule member) answers outcome

-- What is selected is the text of a result, so that it is never taken for no outcome.
theorem selected_text (texts : p.Every Datum.isText) (selected : p.select answers = .ok (some value)) : value.isText = true := by
  obtain ⟨_, declaration, _, ⟨before, after, parts, _⟩, rfl⟩ :=
    (Program.select_eq_some texts.named answers value).mp selected
  exact (Bool.and_eq_true_iff.mp (texts.results declaration (by rw [parts]; simp))).2

def disputed : Program where
  statements := [⟨.text "noise", .text "Is it loud?"⟩, ⟨.text "heat", .text "Is it hot?"⟩]
  results := [⟨.text "fan", .text "Clean the fan."⟩, ⟨.text "fan", .text "Replace the fan."⟩]
  rules := [
    ⟨.node .or (.leaf ⟨.text "heat", true⟩) (.leaf ⟨.text "noise", false⟩), .text "fan"⟩,
    ⟨.node .and (.leaf ⟨.text "noise", false⟩) (.leaf ⟨.text "heat", true⟩), .text "case"⟩,
    ⟨.leaf ⟨.text "noise", false⟩, .text "disk"⟩]

end Page

end Triage
