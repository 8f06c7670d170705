import Triage.Proofs.Page.Faithful
import Triage.Proofs.Page.Rows

namespace Triage.Page
open Triage.Text

section Texts

def expressionTexts : Expr → List (List Char)
  | .leaf condition => [letters condition.statement]
  | .node _ left right => expressionTexts left ++ expressionTexts right
  | .foreign _ => []

def ruleTexts (rule : Rule) : List (List Char) := expressionTexts rule.expression ++ [letters rule.result]

def declarationTexts (declaration : Declaration) : List (List Char) := [letters declaration.name, letters declaration.value]

def textsOf (p : Program) : Marker → List (List Char)
  | .rules => p.rules.flatMap ruleTexts
  | .results => p.results.flatMap declarationTexts
  | .statements => p.statements.flatMap declarationTexts
  | .noResult => [noResultMessage.toList]

def allTexts (p : Program) : List (List Char) :=
  textsOf p .rules ++ (textsOf p .results ++ textsOf p .statements)

def bare (p : Program) (marker : Marker) : List Char := '"' :: rows (textsOf p marker)

def bareScript (p : Program) : List Char :=
  Marker.all.foldl (fun text marker => replaceAll marker.word (bare p marker) text) (filled Marker.word script)

variable {p : Program} {e : Expr} {rule : Rule} {declaration : Declaration}

theorem shows_letters (text : d.isText = true) : Shows [letters d] d := by
  obtain ⟨s, rfl⟩ := Datum.exists_text text
  exact .text s

theorem shows_expression (proper : e.proper = true) (texts : ∀ name, e.Mentions name → name.isText = true) :
    Shows (expressionTexts e) e.document := by
  induction e with
  | leaf condition =>
      have form : Shows [] (.text "condition") := .constant (by decide)
      have statement := shows_letters (texts condition.statement (Expr.mentions_leaf.mpr rfl))
      have inner := Shows.record (.cons (statement.field "variable" (by decide))
        (.cons ((Shows.bool condition.negated).field "negated" (by decide)) .nil))
      exact .record (.cons (form.field "type" (by decide)) (.cons (inner.field "condition" (by decide)) .nil))
  | node op left right ihLeft ihRight =>
      rw [Expr.proper, Bool.and_eq_true] at proper
      have form : Shows [] (.text "logical") := .constant (by decide)
      have connective : Shows [] (.text op.name) := .constant (by cases op <;> decide)
      have first := ihLeft proper.1 fun name mentions => texts name (Expr.mentions_node.mpr (.inl mentions))
      have second := ihRight proper.2 fun name mentions => texts name (Expr.mentions_node.mpr (.inr mentions))
      have whole := Shows.record (.cons (form.field "type" (by decide)) (.cons (connective.field "operator" (by decide))
        (.cons (first.field "left" (by decide)) (.cons (second.field "right" (by decide)) .nil))))
      simpa [expressionTexts, Expr.document] using whole
  | foreign given => cases proper

theorem shows_rule (proper : rule.expression.proper = true) (texts : rule.expression.every Datum.isText = true)
    (leads : rule.result.isText = true) : Shows (ruleTexts rule) rule.document := by
  have expression := shows_expression proper (Expr.every_iff.mp texts)
  have result := shows_letters leads
  exact .record (.cons (expression.field "expression" (by decide)) (.cons (result.field "result" (by decide)) .nil))

theorem shows_declaration (texts : declaration.every Datum.isText = true) :
    Shows (declarationTexts declaration) (Document.ofDeclaration declaration) := by
  obtain ⟨nameText, valueText⟩ := Bool.and_eq_true_iff.mp texts
  have name := shows_letters nameText
  have value := shows_letters valueText
  exact .record (.cons (name.field "name" (by decide)) (.cons (value.field "value" (by decide)) .nil))

theorem list_alike {items : List α} {texts : α → List (List Char)} {write : α → Datum}
    (each : ∀ item ∈ items, Shows (texts item) (write item)) :
    Alike (embed (.list (items.map write))) ('"' :: rows (items.flatMap texts)) := by
  have shows : List.Forall₂ Shows (items.map texts) (items.map write) := by
    rw [List.forall₂_map_left_iff, List.forall₂_map_right_iff, List.forall₂_same]
    exact each
  obtain ⟨within, parts, row⟩ := Shows.list_within shows (.indented 0)
  have behind := row [] [] .nil ['['] (.single rfl rfl)
  rw [List.append_nil, List.append_nil, ← List.flatMap_def] at behind
  have whole : Json.render (.list (items.map write)) = ['['] ++ within := parts
  rw [embed, whole]
  exact soften_alike behind

theorem data_alike (texts : p.Every Datum.isText) (proper : p.Proper) (marker : Marker) :
    Alike ((data p).text marker) (bare p marker) := by
  cases marker with
  | rules => exact list_alike fun rule member =>
      shows_rule (proper rule member) (texts.conditions rule member) (texts.outcomes rule member)
  | results => exact list_alike fun declaration member => shows_declaration (texts.results declaration member)
  | statements => exact list_alike fun declaration member => shows_declaration (texts.statements declaration member)
  | noResult => exact soften_alike (writeText_alike noResultMessage.toList)

end Texts

section Scripts

variable {p : Program} {opening : Opening}

theorem scriptText_alike (texts : p.Every Datum.isText) (proper : p.Proper) : Alike (scriptText (data p)) (bareScript p) := by
  have run : ∀ (markers : List Marker) (x y : List Char), Alike x y →
      Alike (markers.foldl (fun text marker => replaceAll marker.word ((data p).text marker) text) x)
        (markers.foldl (fun text marker => replaceAll marker.word (bare p marker) text) y) := by
    intro markers
    induction markers with
    | nil => exact fun _ _ same => same
    | cons marker markers ih =>
        intro x y same
        exact ih _ _ (.replaceAll marker.isWord (data_alike texts proper marker) same)
  exact run Marker.all _ _ (.refl _)

theorem openings_rows (texts : List (List Char)) : openings (rows texts) = texts.flatMap openings := by
  induction texts with
  | nil => rfl
  | cons text texts ih =>
      rw [← List.singleton_append, rows_append, List.flatMap_append, ← ih]
      have single : rows [text] ++ rows texts = text ++ '"' :: rows texts := by simp [rows]
      rw [single, openings_break rfl, List.flatMap_singleton]

theorem openings_bare (p : Program) (marker : Marker) : openings (bare p marker) = (textsOf p marker).flatMap openings := by
  rw [← openings_rows]
  exact openings_skip (show '<' ∉ ['"'] by decide) _

theorem walled_data (p : Program) (marker : Marker) : Walled ((data p).text marker) := by
  obtain ⟨within, brackets | marks⟩ := data_ends p marker
  · exact ⟨⟨'[', _, brackets, rfl⟩, ⟨']', '[' :: within, brackets, rfl⟩⟩
  · exact ⟨⟨'"', _, marks, rfl⟩, ⟨'"', '"' :: within, marks, rfl⟩⟩

theorem openings_filled {fill : Marker → List Char} {pieces : List Piece} (walled : ∀ marker, Walled (fill marker))
    (tame : ∀ piece ∈ pieces, piece.Tame) : openings (filled fill pieces) =
      pieces.flatMap fun piece => match piece with
        | .plain _ => []
        | .marker marker => openings (fill marker) := by
  induction pieces with
  | nil => rfl
  | cons piece pieces ih =>
      obtain ⟨here, others⟩ := List.forall_mem_cons.mp tame
      cases piece with
      | plain text => exact (openings_skip here.2 _).trans (ih others)
      | marker marker =>
          rw [List.flatMap_cons, ← ih others]
          exact (walled marker).openings_append _

theorem openings_script {fill : Marker → List Char} (walled : ∀ marker, Walled (fill marker)) :
    openings (filled fill script) = Marker.all.flatMap fun marker => openings (fill marker) := by
  rw [openings_filled walled script_tame]
  simp [script, lineWith, plainLines, Marker.all]

theorem openings_message : openings noResultMessage.toList = [] := by
  have plain : '<' ∉ noResultMessage.toList := by decide
  have none := openings_skip plain []
  rwa [List.append_nil] at none

theorem openings_texts (p : Program) :
    (Marker.all.flatMap fun marker => openings (bare p marker)) = (allTexts p).flatMap openings := by
  simp [Marker.all, openings_bare, allTexts, textsOf, openings_message]

theorem openings_data (texts : p.Every Datum.isText) (proper : p.Proper) (marker : Marker) :
    openings ((data p).text marker) = openings (bare p marker) :=
  openings_alike (data_alike texts proper marker)

theorem openings_turns {data : ScriptData} (walled : ∀ marker, Walled (data.text marker)) (markers : List Marker)
    (text : List Char) (member : opening ∈ openings (turns data markers text)) :
    opening ∈ openings text ∨ ∃ marker, opening ∈ openings (data.text marker) := by
  induction markers generalizing text with
  | nil => exact .inl member
  | cons marker markers ih =>
      rcases ih _ member with before | inData
      · rcases openings_replaceAll (walled marker) marker text before with new | old
        · exact .inr ⟨marker, new⟩
        · exact .inl old
      · exact .inr inData

theorem openings_given (texts : p.Every Datum.isText) (proper : p.Proper)
    (member : opening ∈ openings (scriptText (data p))) : ∃ text ∈ allTexts p, opening ∈ openings text := by
  rw [← List.mem_flatMap, ← openings_texts, List.mem_flatMap]
  have none : openings (filled Marker.word script) = [] := by
    have skipped := openings_skip filled_plain []
    rwa [List.append_nil] at skipped
  rcases openings_turns (walled_data p) Marker.all _ member with before | ⟨marker, inData⟩
  · rw [none] at before
    cases before
  · rw [openings_data texts proper] at inData
    exact ⟨marker, marker.mem_all, inData⟩

-- Where no data hold a marker still to come, the openings are in the order of the texts.
theorem openings_ordered (texts : p.Every Datum.isText) (proper : p.Proper) (unmarked : Unmarked p) :
    openings (scriptText (data p)) = (allTexts p).flatMap openings := by
  have kept := (scriptText_kept (data_walled p)).mpr ((unmarked_iff texts proper).mpr unmarked)
  rw [kept, openings_script (walled_data p), ← openings_texts]
  apply List.flatMap_congr
  intro marker _
  exact openings_data texts proper marker

theorem openings_body (p : Program) : openings (scriptText (data p) ++ margin.toList) = openings (scriptText (data p)) := by
  have blanks : margin.toList = ' ' :: "   ".toList := by decide
  have none : openings "   ".toList = [] := by decide
  rw [blanks, openings_break rfl, none, List.append_nil]

end Scripts

structure Switching (p : Program) (body : List Char) : Prop where
  bare : Switches body ↔ Switches (bareScript p)
  ordered : Unmarked p → (Switches body ↔ Switches (rows (allTexts p)))
  given : Switches body → ∀ opening : Opening, ∃ text ∈ allTexts p, opening.word <:+: lowered text

-- Embedding neither makes nor hides what switches a script: texts that open a comment, and then a
-- script, do so in the page as well.
theorem render_switches {p : Program} (texts : p.Every Datum.isText) (proper : p.Proper) (title : String) :
    ∃ page before body after, render (.text title) p = .ok page ∧ scriptParts? page = some (before, body, after) ∧
      Switching p body := by
  refine ⟨_, _, _, _, render_texts texts proper title, scriptParts?_render title.toList p, ?_⟩
  constructor
  case bare => rw [switches_iff, switches_iff, openings_body, openings_alike (scriptText_alike texts proper)]
  case ordered =>
    intro unmarked
    rw [switches_iff, switches_iff, openings_body, openings_ordered texts proper unmarked, openings_rows]
  case given =>
    intro switches opening
    rw [switches_iff, openings_body] at switches
    have member : opening ∈ openings (scriptText (data p)) := switches.subset (by cases opening <;> decide)
    obtain ⟨text, inTexts, opened⟩ := openings_given texts proper member
    exact ⟨text, inTexts, mem_openings.mp opened⟩

def scattered : Program where
  statements := [⟨.text "a", .text "Is <SCRIPT> shown?"⟩]
  results := [⟨.text "r", .text "Write \"<!--\" first."⟩]
  rules := [⟨.leaf ⟨.text "a", false⟩, .text "r"⟩]

def turned : Program where
  statements := [⟨.text "a", .text "Write \"<!--\" first."⟩]
  results := [⟨.text "r", .text "Is <SCRIPT> shown?"⟩]
  rules := [⟨.leaf ⟨.text "a", false⟩, .text "r"⟩]

theorem render_switches_scattered :
    (scattered.Every Datum.isText ∧ scattered.Proper ∧ ∃ page before body after,
      render (.text "Fans") scattered = .ok page ∧ scriptParts? page = some (before, body, after) ∧
        Switching scattered body ∧ Switches body) ∧
    (turned.Every Datum.isText ∧ turned.Proper ∧ ∃ page before body after,
      render (.text "Fans") turned = .ok page ∧ scriptParts? page = some (before, body, after) ∧
        Switching turned body ∧ ¬Switches body) := by
  have texts : scattered.Every Datum.isText ∧ turned.Every Datum.isText := by decide
  have proper : scattered.Proper ∧ turned.Proper := by decide
  have unmarked : Unmarked scattered ∧ Unmarked turned := by decide
  have before : [.comment, .script].Sublist (openings (rows (allTexts scattered))) := by decide
  have behind : ¬[.comment, .script].Sublist (openings (rows (allTexts turned))) := by decide
  obtain ⟨page, front, body, after, rendered, parts, switching⟩ := render_switches texts.1 proper.1 "Fans"
  obtain ⟨page', front', body', after', rendered', parts', switching'⟩ := render_switches texts.2 proper.2 "Fans"
  have switches := (switching.ordered unmarked.1).mpr (switches_iff.mpr before)
  have stays : ¬Switches body' := fun switches => behind (switches_iff.mp ((switching'.ordered unmarked.2).mp switches))
  exact ⟨⟨texts.1, proper.1, page, front, body, after, rendered, parts, switching, switches⟩,
    texts.2, proper.2, page', front', body', after', rendered', parts', switching', stays⟩

end Triage.Page
