import Triage.Proofs.Page.Markup

namespace Triage.Page
open Triage.Text

def marks (text : List Char) : List Char := text.filter isMark

def skeleton (statements : Nat) : List Char :=
  marks ((opening [] (List.replicate statements (statementParts [] [])).flatten ++ closing).flatMap Part.render)

structure Sealed (title : String) (p : Program) (page before body after : List Char) : Prop where
  whole : page = before ++ (body ++ after)
  ending : places scriptEnd.toList (lowered page) = 1
  inside : ¬"</".toList <:+: body
  outside : marks (before ++ after) = skeleton p.statements.length
  titled : Field.title.contents before = [title.toList]
  headed : Field.heading.contents before = [title.toList]
  labels : (Field.label.contents before).map Datum.ofChars = p.statements.map Declaration.value
  choices : (Field.choice.contents before).map Datum.ofChars =
    p.statements.flatMap fun declaration => [declaration.name, declaration.name]

section Marks

theorem marks_append (front back : List Char) : marks (front ++ back) = marks front ++ marks back :=
  List.filter_append front back

def Part.blank : Part → Part
  | .markup text => .markup text
  | .data _ => .data []

theorem marks_blank (parts : List Part) :
    marks (parts.flatMap Part.render) = marks ((parts.map Part.blank).flatMap Part.render) := by
  induction parts with
  | nil => rfl
  | cons part parts ih =>
      rw [List.map_cons, List.flatMap_cons, List.flatMap_cons, marks_append, marks_append, ih]
      congr 1
      cases part with
      | markup text => rfl
      | data text =>
          have none : marks (escape text) = [] := by
            rw [marks, List.filter_eq_nil_iff]
            intro c member
            rw [escape_unmarked text c member]
            decide
          exact none

theorem opening_blank (title : List Char) (statements : List Part) :
    (opening title statements).map Part.blank = opening [] (statements.map Part.blank) := by
  simp [opening, beforeTitle, beforeHeading, beforeScript, Part.blank]

theorem statements_blank (declarations : List Declaration) : (declarations.map partsOf).flatten.map Part.blank =
    (List.replicate declarations.length (statementParts [] [])).flatten := by
  induction declarations with
  | nil => rfl
  | cons declaration declarations ih =>
      rw [List.map_cons, List.flatten_cons, List.map_append, ih, List.length_cons, List.replicate_succ, List.flatten_cons]
      rfl

theorem marks_outside (title : List Char) (p : Program) :
    marks (pageStart title p ++ pageEnd.toList) = skeleton p.statements.length := by
  have blanks : marks margin.toList = [] := by decide
  rw [skeleton, List.flatMap_append, closing_parts, marks_append, marks_append, marks_append, blanks, List.nil_append,
    pageStart, marks_blank, opening_blank, statements_blank]

end Marks

theorem places_page (title : List Char) (p : Program) :
    places scriptEnd.toList (lowered (pageStart title p ++ ((scriptText (data p) ++ margin.toList) ++ pageEnd.toList))) = 1 := by
  have begins : scriptEnd.toList = '<' :: '/' :: "script".toList := by decide
  have inBody : Passes scriptEnd.toList (lowered (scriptText (data p) ++ margin.toList)) := by
    rw [begins]
    apply Passes.pairless
    · intro stands
      apply body_closed p
      exact pair_map (fun _ => toLower_below (by decide)) (fun _ => toLower_below (by decide)) stands
    · have blank : (lowered margin.toList).getLast? = some ' ' := by decide
      rw [lowered, List.map_append, List.getLast?_append, ← lowered, blank]
      simp
  have atEnd : places scriptEnd.toList (lowered pageEnd.toList) = 1 := by decide +kernel
  have parts : ∀ front back, lowered (front ++ back) = lowered front ++ lowered back := fun _ _ => List.map_append
  rw [parts, parts, places_passes (pageStart_endless title p), places_passes inBody, atEnd]

theorem ofChars_letters (text : d.isText = true) : Datum.ofChars (letters d) = d := by
  obtain ⟨s, rfl⟩ := Datum.exists_text text
  rw [letters, Datum.ofChars, String.ofList_toList]

-- The page of a program and a title keeps all their texts in their places.
theorem render_sealed {p : Program} (texts : p.Every Datum.isText) (proper : p.Proper) (title : String) :
    ∃ page before body after, render (.text title) p = .ok page ∧ scriptParts? page = some (before, body, after) ∧
      Sealed title p page before body after := by
  refine ⟨_, _, _, _, render_texts texts proper title, scriptParts?_render title.toList p, ?_⟩
  have valued : ∀ declaration ∈ p.statements, Datum.ofChars (letters declaration.value) = declaration.value := by
    intro declaration member
    exact ofChars_letters (Bool.and_eq_true_iff.mp (texts.statements declaration member)).2
  have named : ∀ declaration ∈ p.statements, Datum.ofChars (letters declaration.name) = declaration.name := by
    intro declaration member
    exact ofChars_letters (Bool.and_eq_true_iff.mp (texts.statements declaration member)).1
  exact {
    whole := rfl
    ending := places_page title.toList p
    inside := body_closed p
    outside := marks_outside title.toList p
    titled := contents_pageStart title.toList p .title
    headed := contents_pageStart title.toList p .heading
    labels := by
      rw [contents_pageStart, Field.given, List.map_flatMap, List.map_eq_flatMap]
      apply List.flatMap_congr
      intro declaration member
      exact congrArg (fun value => [value]) (valued declaration member)
    choices := by
      rw [contents_pageStart, Field.given, List.map_flatMap]
      apply List.flatMap_congr
      intro declaration member
      exact congrArg (fun name => [name, name]) (named declaration member) }

def hostile : Program where
  statements := [
    ⟨.text "\" onclick=\"x()", .text "</script><b>&lt;"⟩,
    ⟨.text "__NO_RESULT__'", .text "</LABEL><\\/"⟩]
  results := [⟨.text "__STATEMENTS__", .text "</SCRIPT>"⟩]
  rules := [⟨.node .and (.leaf ⟨.text "__RESULTS__<", true⟩) (.leaf ⟨.text "/script>", false⟩), .text "__STATEMENTS__"⟩]

theorem render_sealed_hostile : hostile.Every Datum.isText ∧ hostile.Proper ∧
    ∃ page before body after, render (.text "</title><script>") hostile = .ok page ∧
      scriptParts? page = some (before, body, after) ∧ Sealed "</title><script>" hostile page before body after ∧
      (Field.label.contents before).map Datum.ofChars = [.text "</script><b>&lt;", .text "</LABEL><\\/"] := by
  have texts : hostile.Every Datum.isText := by decide
  have proper : hostile.Proper := by decide
  obtain ⟨page, before, body, after, rendered, parts, kept⟩ := render_sealed texts proper "</title><script>"
  exact ⟨texts, proper, page, before, body, after, rendered, parts, kept, kept.labels⟩

end Triage.Page
