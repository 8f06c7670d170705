import Triage.Proofs.Json.Soften
import Triage.Proofs.Page.Embedding

namespace Triage
open Triage.Text

def Text.Ascii (text : List Char) : Prop := ∀ c ∈ text, c.toNat < 0x80

instance (text : List Char) : Decidable (Ascii text) :=
  decidable_of_iff (text.all (fun c => decide (c.toNat < 0x80)) = true) (by simp [Ascii])

theorem Text.Ascii.append (first : Ascii front) (second : Ascii back) : Ascii (front ++ back) :=
  List.forall_mem_append.mpr ⟨first, second⟩

theorem Text.Ascii.cons (here : c.toNat < 0x80) (later : Ascii text) : Ascii (c :: text) :=
  List.forall_mem_cons.mpr ⟨here, later⟩

theorem Text.Ascii.flatMap {write : α → List Char} {items : List α} (each : ∀ item ∈ items, Ascii (write item)) :
    Ascii (items.flatMap write) := by
  intro c member
  obtain ⟨item, inItems, here⟩ := List.mem_flatMap.mp member
  exact each item inItems c here

namespace Json

theorem unitEscape_ascii (unit : Nat) : Ascii (unitEscape unit) := by
  have digit : ∀ n < 16, (hexDigit .lower n).toNat < 0x80 := by decide
  intro c member
  rcases mem_unitEscape member with rfl | rfl | ⟨n, small, rfl⟩
  · decide
  · decide
  · exact digit n small

theorem escapedChar_ascii (c : Char) : Ascii (escapedChar c) := by
  have marks : (shortMarks.all fun mark => decide (mark.toNat < 0x80)) = true := by decide
  have escapes := escapes_escapedChar c
  generalize escapedChar c = written at escapes ⊢
  cases escapes with
  | @short mark known escape hidden =>
      have small : mark.toNat < 0x80 := of_decide_eq_true (List.all_eq_true.mp marks mark known)
      exact .cons (by decide) (.cons small (by decide))
  | plain notMark notEscape low high => exact .cons (by omega) (by decide)
  | unit => exact unitEscape_ascii _
  | halves => exact (unitEscape_ascii _).append (unitEscape_ascii _)

theorem writeText_ascii (text : List Char) : Ascii (writeText text) :=
  .append (.cons (by decide) (.flatMap fun c _ => escapedChar_ascii c)) (by decide)

theorem lineBreak_ascii (layout : Layout) : Ascii layout.lineBreak := by
  intro c member
  rcases mem_lineBreak member with rfl | rfl <;> decide

theorem colon_ascii (layout : Layout) : Ascii layout.colon := by
  cases layout with
  | compact => decide
  | indented _ => exact (by decide : Ascii [':', ' '])

theorem enclosed_ascii (layout : Layout) (opens : opening.toNat < 0x80) (closes : closing.toNat < 0x80)
    (each : ∀ item ∈ items, Ascii item) : Ascii (enclosed layout opening closing items) := by
  cases items with
  | nil => exact .cons opens (.cons closes (by decide))
  | cons item items =>
      obtain ⟨here, later⟩ := List.forall_mem_cons.mp each
      have others : Ascii (items.flatMap fun next => ',' :: layout.inner.lineBreak ++ next) :=
        .flatMap fun next member => .append (.cons (by decide) (lineBreak_ascii _)) (later next member)
      have front : Ascii (opening :: layout.inner.lineBreak ++ item) :=
        .append (.cons opens (lineBreak_ascii _)) here
      exact ((front.append others).append (lineBreak_ascii _)).append (.cons closes (by decide))

theorem integerText_ascii (n : Int) : Ascii (Datum.integerText n) := by
  intro c member
  rcases mem_integerText member with rfl | digit
  · decide
  · have low := digit_low digit
    omega

theorem write_ascii (known : d.inJson = true) (fits : d.writable = true) (layout : Layout) : Ascii (write layout d) := by
  refine Datum.inJson_induction (motive := fun d => ∀ layout, Ascii (write layout d))
    ?null ?bool ?int ?text ?list ?object d known fits layout
  case null =>
      intro layout
      rw [write]
      decide
  case bool =>
      intro b layout
      cases b <;> rw [write] <;> decide
  case int =>
      intro n _ layout
      exact integerText_ascii n
  case text =>
      intro s layout
      exact writeText_ascii s.toList
  case list =>
      intro items _ ih layout
      rw [write, writeItems_map]
      apply enclosed_ascii layout (by decide) (by decide)
      exact List.forall_mem_map.mpr fun item member => ih item member layout.inner
  case object =>
      intro fields _ _ ih layout
      rw [write, writeFields_map]
      apply enclosed_ascii layout (by decide) (by decide)
      refine List.forall_mem_map.mpr fun field member => ?_
      exact ((writeText_ascii _).append (colon_ascii _)).append (ih field member layout.inner)

theorem soften_ascii (ascii : Ascii text) : Ascii (soften text) := by
  induction text using pattern_induction (show "</".toList ≠ [] by decide) with
  | nil =>
      rw [soften_nil]
      exact ascii
  | here text ih =>
      have parts : soften ("</".toList ++ text) = "<\\/".toList ++ soften text := soften_tag text
      rw [parts]
      exact Ascii.append (by decide) (ih (List.forall_mem_append.mp ascii).2)
  | other c text loose ih =>
      rw [soften_loose loose]
      obtain ⟨here, later⟩ := List.forall_mem_cons.mp ascii
      exact .cons here (ih later)

end Json

namespace Page

structure Embeds (d : Datum) : Prop where
  written : Json.checked d = .ok d
  closed : ¬['<', '/'] <:+: embed d
  ascii : Ascii (embed d)
  back : Json.read (embed d) = .ok d

theorem embeds (known : d.inJson = true) (fits : d.writable = true) : Embeds d where
  written := Json.checked_inJson known fits
  closed := embed_closed d
  ascii := Json.soften_ascii (Json.write_ascii known fits (.indented 0))
  back := Json.read_soften (Json.read_write (.indented 0) known fits)

-- Null, truth values, integers and texts, and lists and objects of them, can be embedded; and so can
-- the rules, results and statements of a program of texts, which are embedded by the page.
theorem embed_unchanged : (∀ d : Datum, d.inJson = true → d.writable = true → Embeds d) ∧
    ∀ p : Program, p.Proper → p.Every Datum.isText → ∃ data, ScriptData.ofProgram p = .ok data ∧
      Embeds data.rules ∧ Embeds data.results ∧ Embeds data.statements := by
  refine ⟨fun d known fits => embeds known fits, fun p proper texts => ?_⟩
  obtain ⟨knownRules, knownResults, knownStatements⟩ := data_composed Datum.composed_inJson proper texts
  obtain ⟨fitRules, fitResults, fitStatements⟩ := data_composed Datum.composed_writable proper texts
  exact ⟨data p, ofProgram_data proper texts, embeds knownRules fitRules, embeds knownResults fitResults,
    embeds knownStatements fitStatements⟩

def barbed : Datum := .object [
  (.text "</a>", .list [.text "<\\/", .text "\\</\\\\</", .text "<", .text "/", .text "<</</"]),
  (.text "\"\\", .object [(.text "", .text "\"\x00\x1f\x7f\n"), (.text "😀", .bool true), (.text "é</script>", .list [])])]

def barbedProgram : Program where
  statements := [⟨.text "</script>", .text "<\\/"⟩]
  results := [⟨.text "</", .text "\\</\\"⟩]
  rules := [⟨.leaf ⟨.text "<</", true⟩, .text "</"⟩]

theorem embed_unchanged_barbed : barbed.inJson = true ∧ barbed.writable = true ∧ Embeds barbed ∧
    barbedProgram.Proper ∧ barbedProgram.Every Datum.isText ∧ ∃ data, ScriptData.ofProgram barbedProgram = .ok data ∧
      Embeds data.rules ∧ Embeds data.results ∧ Embeds data.statements := by
  have known : barbed.inJson = true := by decide
  have fits : barbed.writable = true := by decide
  have proper : barbedProgram.Proper := by decide
  have texts : barbedProgram.Every Datum.isText := by decide
  exact ⟨known, fits, embed_unchanged.1 barbed known fits, proper, texts,
    embed_unchanged.2 barbedProgram proper texts⟩

end Page

end Triage
