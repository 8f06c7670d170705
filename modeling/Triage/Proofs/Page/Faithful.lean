import Triage.Page.Script
import Triage.Proofs.Page.Markup

namespace Triage.Page
open Triage.Text

def lacks (markers : List Marker) (d : Datum) : Bool := markers.all fun marker => !d.holds marker.word

theorem lacks_iff {markers : List Marker} : lacks markers d = true ↔ ∀ marker ∈ markers, ¬d.holds marker.word = true := by
  simp [lacks]

-- No data hold a marker that is replaced after they have been put in.
structure Unmarked (p : Program) : Prop where
  conditions : ∀ rule ∈ p.rules, rule.expression.every (lacks [.results, .statements, .noResult]) = true
  outcomes : ∀ rule ∈ p.rules, lacks [.results, .statements, .noResult] rule.result = true
  results : ∀ declaration ∈ p.results, declaration.every (lacks [.statements, .noResult]) = true
  statements : ∀ declaration ∈ p.statements, declaration.every (lacks [.noResult]) = true

instance (p : Program) : Decidable (Unmarked p) :=
  decidable_of_iff ((∀ rule ∈ p.rules, rule.expression.every (lacks [.results, .statements, .noResult]) = true) ∧
      (∀ rule ∈ p.rules, lacks [.results, .statements, .noResult] rule.result = true) ∧
      (∀ declaration ∈ p.results, declaration.every (lacks [.statements, .noResult]) = true) ∧
      ∀ declaration ∈ p.statements, declaration.every (lacks [.noResult]) = true)
    ⟨fun ⟨conditions, outcomes, results, statements⟩ => ⟨conditions, outcomes, results, statements⟩,
      fun ⟨conditions, outcomes, results, statements⟩ => ⟨conditions, outcomes, results, statements⟩⟩

def ScriptData.ofDocument (document : Datum) : ScriptData where
  rules := property document "rules"
  results := property document "results"
  statements := property document "statements"

section Data

variable {p : Program} {markers : List Marker}

theorem infix_rules (texts : p.Every Datum.isText) (proper : p.Proper) (marker : Marker) :
    marker.word <:+: embed (data p).rules ↔ ∃ rule ∈ p.rules,
      (∃ name, rule.expression.Mentions name ∧ name.holds marker.word = true) ∨ rule.result.holds marker.word = true := by
  have known := (data_composed Datum.composed_inJson proper texts).1
  have fits := (data_composed Datum.composed_writable proper texts).1
  rw [infix_embed marker.capitals known fits, data, holds_list]
  simp only [List.mem_map, exists_exists_and_eq_and]
  exact exists_congr fun rule => and_congr_right fun member => holds_rule (proper rule member)

theorem rules_lack (texts : p.Every Datum.isText) (proper : p.Proper) :
    (∀ marker ∈ markers, ¬marker.word <:+: embed (data p).rules) ↔
      ∀ rule ∈ p.rules, rule.expression.every (lacks markers) = true ∧ lacks markers rule.result = true := by
  constructor
  · intro absent rule member
    rw [Expr.every_iff, lacks_iff]
    refine ⟨?_, ?_⟩
    · intro name mentions
      rw [lacks_iff]
      intro marker inMarkers here
      exact absent marker inMarkers ((infix_rules texts proper marker).mpr ⟨rule, member, .inl ⟨name, mentions, here⟩⟩)
    · intro marker inMarkers here
      exact absent marker inMarkers ((infix_rules texts proper marker).mpr ⟨rule, member, .inr here⟩)
  · intro each marker inMarkers stands
    obtain ⟨rule, member, ⟨name, mentions, here⟩ | here⟩ := (infix_rules texts proper marker).mp stands
    · exact lacks_iff.mp (Expr.every_iff.mp (each rule member).1 name mentions) marker inMarkers here
    · exact lacks_iff.mp (each rule member).2 marker inMarkers here

theorem infix_declarations {declarations : List Declaration}
    (texts : ∀ declaration ∈ declarations, declaration.every Datum.isText = true) (marker : Marker) :
    marker.word <:+: embed (.list (declarations.map Document.ofDeclaration)) ↔ ∃ declaration ∈ declarations,
      declaration.name.holds marker.word = true ∨ declaration.value.holds marker.word = true := by
  have every : ∀ {kind}, Datum.Composed kind → ∀ declaration ∈ declarations, declaration.every kind = true :=
    fun composed declaration member => Declaration.every_imp (texts declaration member) composed.ofText
  rw [infix_embed marker.capitals (Datum.composed_inJson.declarations (every Datum.composed_inJson))
    (Datum.composed_writable.declarations (every Datum.composed_writable)), holds_list]
  simp only [List.mem_map, exists_exists_and_eq_and, holds_declaration]

theorem declarations_lack {declarations : List Declaration}
    (texts : ∀ declaration ∈ declarations, declaration.every Datum.isText = true) :
    (∀ marker ∈ markers, ¬marker.word <:+: embed (.list (declarations.map Document.ofDeclaration))) ↔
      ∀ declaration ∈ declarations, declaration.every (lacks markers) = true := by
  constructor
  · intro absent declaration member
    rw [Declaration.every, Bool.and_eq_true, lacks_iff, lacks_iff]
    refine ⟨?_, ?_⟩
    · intro marker inMarkers here
      exact absent marker inMarkers ((infix_declarations texts marker).mpr ⟨declaration, member, .inl here⟩)
    · intro marker inMarkers here
      exact absent marker inMarkers ((infix_declarations texts marker).mpr ⟨declaration, member, .inr here⟩)
  · intro each marker inMarkers stands
    obtain ⟨declaration, member, here⟩ := (infix_declarations texts marker).mp stands
    obtain ⟨name, value⟩ := Bool.and_eq_true_iff.mp (each declaration member)
    rcases here with inName | inValue
    · exact lacks_iff.mp name marker inMarkers inName
    · exact lacks_iff.mp value marker inMarkers inValue

theorem ofDocument_data (p : Program) : ScriptData.ofDocument p.document = data p := rfl

theorem unmarked_iff (texts : p.Every Datum.isText) (proper : p.Proper) :
    (∀ marker, ∀ later ∈ Marker.later marker, ¬later.word <:+: (data p).text marker) ↔ Unmarked p := by
  constructor
  · intro absent
    have rules := (rules_lack texts proper).mp (absent .rules)
    exact {
      conditions := fun rule member => (rules rule member).1
      outcomes := fun rule member => (rules rule member).2
      results := (declarations_lack texts.results).mp (absent .results)
      statements := (declarations_lack texts.statements).mp (absent .statements) }
  · intro unmarked marker
    cases marker with
    | rules => exact (rules_lack texts proper).mpr fun rule member => ⟨unmarked.conditions rule member, unmarked.outcomes rule member⟩
    | results => exact (declarations_lack texts.results).mpr unmarked.results
    | statements => exact (declarations_lack texts.statements).mpr unmarked.statements
    | noResult =>
        intro later member
        cases member

end Data

-- The script of a page holds the data of the program's document, as if all markers were replaced at
-- once, exactly when no data hold a marker that is replaced later.
theorem render_faithful {p : Program} (texts : p.Every Datum.isText) (proper : p.Proper) (title : String) :
    ∃ document page before body after, Document.ofProgram p = .ok document ∧ render (.text title) p = .ok page ∧
      scriptParts? page = some (before, body, after) ∧
      (body = filled (ScriptData.ofDocument document).text script ++ margin.toList ↔ Unmarked p) := by
  refine ⟨p.document, _, _, _, _, Document.ofProgram_proper proper, render_texts texts proper title,
    scriptParts?_render title.toList p, ?_⟩
  rw [ofDocument_data, List.append_left_inj, scriptText_kept (data_walled p), unmarked_iff texts proper]

-- Every text holds markers whose turn is over when it is put in.
def settled : Program where
  statements := [⟨.text "__STATEMENTS__", .text "__RULES__RESULTS__"⟩]
  results := [⟨.text "__RESULTS__", .text "__NO_RESULT_"⟩]
  rules := [⟨.leaf ⟨.text "__RULES__", false⟩, .text "__RULES__"⟩]

def spliced : Program := { settled with results := [⟨.text "fan", .text "a__STATEMENTS__z"⟩] }

theorem render_faithful_settled :
    (settled.Every Datum.isText ∧ settled.Proper ∧ Unmarked settled) ∧
    (spliced.Every Datum.isText ∧ spliced.Proper ∧ ¬Unmarked spliced) ∧
    (∃ document page before body after, Document.ofProgram settled = .ok document ∧
      render (.text "Fans") settled = .ok page ∧ scriptParts? page = some (before, body, after) ∧
      body = filled (ScriptData.ofDocument document).text script ++ margin.toList) ∧
    ∃ document page before body after, Document.ofProgram spliced = .ok document ∧
      render (.text "Fans") spliced = .ok page ∧ scriptParts? page = some (before, body, after) ∧
      body ≠ filled (ScriptData.ofDocument document).text script ++ margin.toList := by
  have texts : settled.Every Datum.isText ∧ spliced.Every Datum.isText := by decide
  have proper : settled.Proper ∧ spliced.Proper := by decide
  have unmarked : Unmarked settled ∧ ¬Unmarked spliced := by decide
  obtain ⟨document, page, before, body, after, written, rendered, parts, kept⟩ :=
    render_faithful texts.1 proper.1 "Fans"
  obtain ⟨document', page', before', body', after', written', rendered', parts', lost⟩ :=
    render_faithful texts.2 proper.2 "Fans"
  exact ⟨⟨texts.1, proper.1, unmarked.1⟩, ⟨texts.2, proper.2, unmarked.2⟩,
    ⟨document, page, before, body, after, written, rendered, parts, kept.mpr unmarked.1⟩,
    ⟨document', page', before', body', after', written', rendered', parts', fun same => unmarked.2 (lost.mp same)⟩⟩

end Triage.Page
