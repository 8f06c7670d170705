import Triage.Proofs.Json.Words
import Triage.Proofs.Page.Slots

namespace Triage
open Triage.Text

theorem Json.enclosed_ends (layout : Layout) (opening closing : Char) (items : List (List Char)) :
    ∃ within, enclosed layout opening closing items = opening :: (within ++ [closing]) := by
  cases items with
  | nil => exact ⟨[], rfl⟩
  | cons item items =>
      refine ⟨layout.inner.lineBreak ++ item ++ items.flatMap (fun next => ',' :: layout.inner.lineBreak ++ next) ++
        layout.lineBreak, ?_⟩
      simp [enclosed]

namespace Page

theorem Marker.capitals (marker : Marker) : Json.Capitals marker.word :=
  ⟨marker.word_filled, List.all_eq_true.mp (by cases marker <;> decide)⟩

theorem embed_ends {first last : Char} (parts : Json.render d = first :: (within ++ [last])) (apart : first ∉ "</".toList)
    (apartLast : last ∉ "</".toList) : ∃ within, embed d = first :: (within ++ [last]) := by
  have filled : "</".toList ≠ [] := by decide
  have start := replaceAll_break filled apart "<\\/".toList [] (within ++ [last])
  have stop := replaceAll_break filled apartLast "<\\/".toList within []
  rw [List.nil_append, replaceAll, List.nil_append, stop, replaceAll] at start
  exact ⟨replaceAll "</".toList "<\\/".toList within, by rw [embed, parts, start]⟩

theorem embed_list (items : List Datum) : ∃ within, embed (.list items) = '[' :: (within ++ [']']) := by
  obtain ⟨within, parts⟩ := Json.enclosed_ends (.indented 0) '[' ']' (Json.writeItems (.indented 1) items)
  exact embed_ends parts (by decide) (by decide)

theorem embed_text (s : String) : ∃ within, embed (.text s) = '"' :: (within ++ ['"']) := by
  have parts : Json.render (.text s) = '"' :: (s.toList.flatMap Json.escapedChar ++ ['"']) := rfl
  exact embed_ends parts (by decide) (by decide)

theorem embed_closed (d : Datum) : ¬['<', '/'] <:+: embed d :=
  pair_replaceAll (by decide) (by decide) ⟨'<', _, rfl, by decide⟩ (by decide) fun _ _ starts => starts

theorem infix_embed (word : Json.Capitals letters) (known : d.inJson = true) (fits : d.writable = true) :
    letters <:+: embed d ↔ d.holds letters = true := by
  have same : SameRuns Json.isCapital (embed d) (Json.render d) :=
    SameRuns.replaceAll (by decide) (by decide) (by decide) (by decide) _
  rw [same.infix_iff word.letters word.filled]
  exact Json.infix_write word known fits (.indented 0)

section Documents

variable {marker : Marker} {p : Program}

-- A record whose keys have no underscore holds a marker where one of its values does.
theorem holds_record {fields : List (String × Datum)} (keys : List String) (same : fields.map Prod.fst = keys)
    (plain : ∀ key ∈ keys, '_' ∉ key.toList) :
    (Datum.record fields).holds marker.word = true ↔ ∃ field ∈ fields, field.2.holds marker.word = true := by
  have none : ∀ field ∈ fields, ¬(Datum.text field.1).holds marker.word = true := by
    intro field member stands
    obtain ⟨more, word⟩ := marker.word_first
    rw [Datum.holds, occurs_iff, word] at stands
    have inKeys : field.1 ∈ keys := by
      rw [← same]
      exact List.mem_map_of_mem member
    exact plain field.1 inKeys (stands.subset List.mem_cons_self)
  rw [Datum.record, Datum.holds, Datum.holdsFields_iff]
  constructor
  · intro stands
    obtain ⟨_, inFields, here⟩ := stands
    obtain ⟨field, member, rfl⟩ := List.mem_map.mp inFields
    exact ⟨field, member, here.resolve_left (none field member)⟩
  · intro stands
    obtain ⟨field, member, here⟩ := stands
    exact ⟨_, List.mem_map_of_mem member, .inr here⟩

theorem holds_list {items : List Datum} : (Datum.list items).holds word = true ↔ ∃ item ∈ items, item.holds word = true := by
  rw [Datum.holds, Datum.holdsItems_iff]

theorem holds_declaration {declaration : Declaration} : (Document.ofDeclaration declaration).holds marker.word = true ↔
    declaration.name.holds marker.word = true ∨ declaration.value.holds marker.word = true := by
  rw [Document.ofDeclaration, holds_record ["name", "value"] rfl (by decide)]
  simp

theorem holds_expression {e : Expr} (proper : e.proper = true) : e.document.holds marker.word = true ↔
    ∃ name, e.Mentions name ∧ name.holds marker.word = true := by
  have plain : ∀ text ∈ ["condition", "logical", "AND", "OR"], (Datum.text text).holds marker.word = false := by
    cases marker <;> decide
  induction e with
  | leaf condition =>
      rw [Expr.document, holds_record ["type", "condition"] rfl (by decide)]
      simp only [List.exists_mem_cons_iff]
      rw [holds_record ["variable", "negated"] rfl (by decide)]
      have form := plain "condition" (by decide)
      have negated : (Datum.bool condition.negated).holds marker.word = false := by simp [Datum.holds]
      simp [form, negated]
  | node op left right ihLeft ihRight =>
      rw [Expr.proper, Bool.and_eq_true] at proper
      have form := plain "logical" (by decide)
      have connective : (Datum.text op.name).holds marker.word = false := by
        cases op
        · exact plain "AND" (by decide)
        · exact plain "OR" (by decide)
      rw [Expr.document, holds_record ["type", "operator", "left", "right"] rfl (by decide)]
      simp [form, connective, ihLeft proper.1, ihRight proper.2, or_and_right, exists_or]
  | foreign given => cases proper

theorem holds_rule {rule : Rule} (proper : rule.expression.proper = true) : rule.document.holds marker.word = true ↔
    (∃ name, rule.expression.Mentions name ∧ name.holds marker.word = true) ∨ rule.result.holds marker.word = true := by
  rw [Rule.document, holds_record ["expression", "result"] rfl (by decide), ← holds_expression proper]
  simp

def data (p : Program) : ScriptData where
  rules := .list (p.rules.map Rule.document)
  results := .list (p.results.map Document.ofDeclaration)
  statements := .list (p.statements.map Document.ofDeclaration)

theorem data_ends (p : Program) (marker : Marker) : ∃ within, (data p).text marker = '[' :: (within ++ [']']) ∨
    (data p).text marker = '"' :: (within ++ ['"']) := by
  have list : ∀ items, ∃ within, embed (.list items) = '[' :: (within ++ [']']) ∨
      embed (.list items) = '"' :: (within ++ ['"']) := by
    intro items
    obtain ⟨within, parts⟩ := embed_list items
    exact ⟨within, .inl parts⟩
  cases marker with
  | rules => exact list _
  | results => exact list _
  | statements => exact list _
  | noResult =>
      obtain ⟨within, parts⟩ := embed_text noResultMessage
      exact ⟨within, .inr parts⟩

theorem data_walled (p : Program) : (data p).Walled := by
  intro marker
  obtain ⟨within, brackets | marks⟩ := data_ends p marker
  · exact ⟨'[', _, brackets, by decide⟩
  · exact ⟨'"', _, marks, by decide⟩

theorem filled_plain : '<' ∉ filled Marker.word script := by
  intro member
  obtain ⟨piece, inScript, here⟩ := List.mem_flatMap.mp member
  cases piece with
  | plain text => exact (script_tame _ inScript).2 here
  | marker marker =>
      have plain : '<' ∉ marker.word := by cases marker <;> decide
      exact plain here

theorem replaceAll_closed (p : Program) (marker : Marker) (absent : ¬['<', '/'] <:+: text) :
    ¬['<', '/'] <:+: replaceAll marker.word ((data p).text marker) text := by
  have closed : ¬['<', '/'] <:+: (data p).text marker := by
    cases marker <;> exact embed_closed _
  have covered : ∀ rest, rest <:+ text → ['<', '/'] <+: rest → marker.word <+: rest := by
    intro rest suffix starts
    exact absurd (starts.isInfix.trans suffix.isInfix) absent
  obtain ⟨first, within, last, parts, apart, apartLast⟩ : ∃ first within last,
      (data p).text marker = first :: within ++ [last] ∧ first ≠ '/' ∧ last ≠ '<' := by
    obtain ⟨within, brackets | marks⟩ := data_ends p marker
    · exact ⟨'[', within, ']', brackets, by decide, by decide⟩
    · exact ⟨'"', within, '"', marks, by decide, by decide⟩
  have ending : ((data p).text marker).getLast? ≠ some '<' := by
    rw [parts, List.getLast?_concat]
    intro same
    exact apartLast (Option.some.inj same)
  exact pair_replaceAll marker.word_filled closed ⟨first, within ++ [last], parts, apart⟩ ending covered

-- No end of a tag can start in the script, whatever is spliced into what.
theorem scriptText_closed (p : Program) : ¬['<', '/'] <:+: scriptText (data p) := by
  have run : ∀ (markers : List Marker) (text : List Char), ¬['<', '/'] <:+: text →
      ¬['<', '/'] <:+: turns (data p) markers text := by
    intro markers
    induction markers with
    | nil =>
        intro text absent
        exact absent
    | cons marker markers ih =>
        intro text absent
        exact ih _ (replaceAll_closed p marker absent)
  apply run
  intro stands
  exact filled_plain (stands.subset List.mem_cons_self)

theorem data_composed {kind : Datum → Bool} (composed : Datum.Composed kind) (proper : p.Proper)
    (texts : p.Every Datum.isText) :
    kind (data p).rules = true ∧ kind (data p).results = true ∧ kind (data p).statements = true := by
  have every := texts.imp composed.ofText
  exact ⟨composed.rules proper every, composed.declarations every.results, composed.declarations every.statements⟩

theorem ofProgram_data (proper : p.Proper) (texts : p.Every Datum.isText) : ScriptData.ofProgram p = .ok (data p) := by
  have rules : p.rules.mapM Document.ofRule = .ok (p.rules.map Rule.document) := by
    rw [mapM_eq_ok, List.forall₂_map_right_iff, List.forall₂_same]
    exact fun rule member => Document.ofRule_proper (proper rule member)
  obtain ⟨knownRules, knownResults, knownStatements⟩ := data_composed Datum.composed_inJson proper texts
  obtain ⟨fitRules, fitResults, fitStatements⟩ := data_composed Datum.composed_writable proper texts
  have first := Json.checked_inJson knownRules fitRules
  have second := Json.checked_inJson knownResults fitResults
  have third := Json.checked_inJson knownStatements fitStatements
  simp only [data] at first second third
  simp only [ScriptData.ofProgram, rules, bind, Except.bind, first, second, third]
  rfl

end Documents

end Page

end Triage
