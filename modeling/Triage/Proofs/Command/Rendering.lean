import Triage.Command.Run
import Triage.Proofs.Page.Markup
import Triage.Proofs.Report.Inventory
import Triage.Proofs.Source.WellFormed
import Triage.Proofs.Text.Letter
import Triage.Proofs.Yaml.RoundTrip

namespace Triage
open Text

namespace Source

variable {p : Program}

theorem wellFormed_texts {declaration : Declaration} (wellFormed : declaration.WellFormed) :
    declaration.every Datum.isText = true := by
  obtain ⟨⟨name, named, _⟩, ⟨value, valued, _⟩⟩ := wellFormed
  rw [Declaration.every, named, valued]
  rfl

theorem read_texts (accepted : read text = .ok p) : p.Every Datum.isText := by
  obtain ⟨found, _, statements, results, _⟩ := read_eq_ok.mp accepted
  have named := (read_named accepted).1
  refine ⟨fun declaration member => ?_, fun declaration member => ?_, fun rule member => ?_, named.outcomes⟩
  · exact wellFormed_texts ((readDeclarations_wellFormed statements).2 declaration member)
  · exact wellFormed_texts ((readDeclarations_wellFormed results).2 declaration member)
  · exact Expr.every_iff.mpr (named.mentions rule member)

end Source

namespace Page

theorem renderLetters_chars (title : List Char) (p : Program) :
    renderLetters (Letter.ofChars title) p = Letter.ofChars <$> render (.ofChars title) p := by
  have named : (Letter.ofChars title).flatMap escapeLetter = Letter.ofChars (escape title) := by
    rw [Letter.ofChars, List.flatMap_map, escape, Letter.ofChars, List.map_flatMap]
    rfl
  unfold renderLetters render
  cases ScriptData.ofProgram p with
  | error refusal => rfl
  | ok data =>
      cases p.statements.mapM declarationParts with
      | error refusal => rfl
      | ok statements =>
          have read : textOf (.ofChars title) = .ok title := by rw [Datum.ofChars, textOf, String.toList_ofList]
          simp only [bind, Except.bind, read, pure, Except.pure, named, opening, List.flatMap_append, List.flatMap_cons,
            Part.render, Letter.ofChars_append, List.append_assoc, Functor.map, Except.map]

theorem renderLetters_half {index : Fin 0x800} (texts : p.Every Datum.isText) (proper : p.Proper)
    (inside : .half index ∈ title) : ∃ page, renderLetters title p = .ok page ∧ Letter.chars? page = none := by
  have kept : .half index ∈ title.flatMap escapeLetter := List.mem_flatMap.mpr ⟨_, inside, List.mem_singleton_self _⟩
  rw [renderLetters, ofProgram_data proper texts, declarationParts_texts texts]
  exact ⟨_, rfl, Letter.chars?_half (List.mem_append_left _ (List.mem_append_right _ kept))⟩

end Page

namespace Command

variable {console : Console} {p : Program} {settings : Settings}

theorem warningLines_total (named : p.Named) (console : Console) (settings : Settings) :
    ∃ lines, warningLines console settings p = .ok lines := by
  unfold warningLines
  split
  · exact ⟨_, rfl⟩
  · obtain ⟨report, made, _⟩ := Report.ofProgram_named named
    rw [made]
    exact ⟨_, rfl⟩

def Settings.Titled (settings : Settings) : Prop :=
  settings.form = some .json ∨ settings.form = some .yaml ∨ ∃ title, settings.title = some (Letter.ofChars title)

theorem written_page (notJson : settings.form ≠ some .json) (notYaml : settings.form ≠ some .yaml) (p : Program) :
    written settings p = refusing (titledPage settings.title p) := by
  unfold written
  split
  · rename_i json
    exact absurd json notJson
  · rename_i yaml
    exact absurd yaml notYaml
  · rfl
  · rfl

theorem written_titled (texts : p.Every Datum.isText) (proper : p.Proper) (titled : settings.Titled) :
    ∃ text, written settings p = .ok (Letter.ofChars text) := by
  by_cases json : settings.form = some .json
  · rw [written, json, Program.toJson_document proper (texts.imp Datum.composed_inJson.ofText)
      (texts.imp Datum.composed_writable.ofText)]
    exact ⟨_, rfl⟩
  by_cases yaml : settings.form = some .yaml
  · rw [written, yaml, Program.toYaml_document proper texts]
    exact ⟨_, rfl⟩
  obtain ⟨title, isTitle⟩ := (titled.resolve_left json).resolve_left yaml
  rw [written_page json yaml, isTitle, titledPage, Page.renderLetters_chars, Datum.ofChars, Page.render_texts texts proper]
  exact ⟨_, rfl⟩

theorem written_untitled (texts : p.Every Datum.isText) (proper : p.Proper) (untitled : ¬settings.Titled) :
    (∃ failure, written settings p = .error failure) ∨
      ∃ page, written settings p = .ok page ∧ Letter.utf8? page = none := by
  rw [Settings.Titled, not_or, not_or] at untitled
  obtain ⟨notJson, notYaml, untitled⟩ := untitled
  rw [written_page notJson notYaml]
  cases title : settings.title with
  | none =>
      have refused := Page.render_untitled texts proper (show nothing.isText = false from rfl)
      exact Or.inl ⟨_, by rw [titledPage, refused]; rfl⟩
  | some letters =>
      rcases Letter.ofChars_or_half letters with ⟨chars, rfl⟩ | ⟨index, inside⟩
      · exact absurd ⟨chars, title⟩ untitled
      · obtain ⟨page, rendered, halved⟩ := Page.renderLetters_half texts proper inside
        exact Or.inr ⟨page, by rw [titledPage, rendered]; rfl, by rw [Letter.utf8?, halved]; rfl⟩

end Command

end Triage
