import Triage.Proofs.Source.Rules
import Triage.Source.Reader

namespace Triage.Expr
open Triage.Source

theorem shown_render (every : EveryLeaf allows e) (written : render e = .ok text) :
    shown e = .ok (Datum.ofChars text) := by
  cases every with
  | @leaf name negated here =>
      cases negated with
      | false =>
          simp only [render, Datum.checked_ofChars] at written
          cases written
          simp [shown]
      | true => simp only [shown, written]; rfl
  | node left right => simp only [shown, written]; rfl

theorem render_inline (every : EveryLeaf (fun name _ => Inline part name) e) (written : render e = .ok text) :
    Inline part text := by
  induction every generalizing text with
  | @leaf name negated here =>
      cases negated with
      | false =>
          simp only [render, Datum.checked_ofChars] at written
          cases written
          simpa using here
      | true =>
          simp only [render, Datum.checked_ofChars] at written
          cases written
          have mark : Inline part "NOT".toList := .word (by decide) (by cases part <;> decide)
          have whole : Inline part ("NOT".toList ++ ' ' :: name) := mark.join (by rfl) (by decide) here
          simpa using whole
  | @node left right op _ _ ihLeft ihRight =>
      rw [render] at written
      obtain ⟨l, first, written⟩ := bind_eq_ok.mp written
      obtain ⟨r, second, written⟩ := bind_eq_ok.mp written
      cases written
      have nothing := Inline.nil part
      have mark : Inline part op.word := .word op.word_lettered (by cases op <;> cases part <;> decide)
      have closed : Inline part (r ++ ')' :: []) := (ihRight second).join (by rfl) (by decide) nothing
      have joined : Inline part (op.word ++ ' ' :: (r ++ ')' :: [])) := mark.join (by rfl) (by decide) closed
      have opened : Inline part ([] ++ '(' :: l) := nothing.join (by rfl) (by decide) (ihLeft first)
      have whole : Inline part (([] ++ '(' :: l) ++ ' ' :: (op.word ++ ' ' :: (r ++ ')' :: []))) :=
        opened.join (by rfl) (by decide) joined
      simpa using whole

end Triage.Expr

namespace Triage.Source
open Triage.Text

inductive LegibleDeclaration (part : Section) : Declaration → Prop where
  | fields : Field part name → Field part value →
      LegibleDeclaration part ⟨Datum.ofChars name, Datum.ofChars value⟩

inductive LegibleRule : Rule → Prop where
  | rule : Expr.EveryLeaf (fun name negated => Expr.Legible name negated ∧ Inline .rules name) e →
      Lettered result → result ≠ Section.rules.closing → LegibleRule ⟨e, Datum.ofChars result⟩

structure Legible (p : Program) : Prop where
  statements : ∀ declaration ∈ p.statements, LegibleDeclaration .statements declaration
  results : ∀ declaration ∈ p.results, LegibleDeclaration .results declaration
  rules : ∀ rule ∈ p.rules, LegibleRule rule

theorem declarations_denote (legible : ∀ declaration ∈ declarations, LegibleDeclaration part declaration) :
    List.Forall₂ (Denotes part fun text number => readDeclaration part.opening number text)
      (declarations.map declarationLine) declarations := by
  rw [List.forall₂_map_left_iff, List.forall₂_same]
  intro declaration member
  cases legible declaration member with
  | fields name value => exact denotes_declaration name value

theorem rule_line (legible : LegibleRule rule) :
    ∃ line, rule.line = .ok line ∧ Denotes .rules (fun text number => readRule number text) line rule := by
  cases legible with
  | @rule e result every lettered apart =>
      obtain ⟨condition, written, operand, reread⟩ := Expr.render_legible (every.imp fun _ _ here => here.1)
      have inline := Expr.render_inline (every.imp fun _ _ here => here.2) written
      refine ⟨ruleLine condition result, ?_, denotes_rule operand inline reread lettered apart⟩
      simp only [Rule.line, Expr.shown_render every written, bind, Except.bind, Datum.checked_ofChars,
        Datum.display_ofChars]
      rfl

theorem rules_lines (legible : ∀ rule ∈ rules, LegibleRule rule) :
    ∃ written, rules.mapM Rule.line = .ok written ∧
      List.Forall₂ (Denotes .rules fun text number => readRule number text) written rules := by
  induction rules with
  | nil => exact ⟨[], rfl, .nil⟩
  | cons rule rules ih =>
      obtain ⟨line, here, denotes⟩ := rule_line (legible rule (by simp))
      obtain ⟨lines, later, others⟩ := ih fun next member => legible next (by simp [member])
      refine ⟨line :: lines, ?_, .cons denotes others⟩
      rw [mapM_eq_ok] at later ⊢
      exact .cons here later

theorem read_sections (found : sections text = .ok ⟨first, second, third⟩)
    (statements : readDeclarations first Section.statements.opening = .ok p.statements)
    (results : readDeclarations second Section.results.opening = .ok p.results)
    (rules : readRules third = .ok p.rules) : read text = .ok p := by
  simp only [read, found, statements, results, rules, bind, Except.bind, inSource, Except.mapError]
  rfl

-- What is read is read strictly as well when its references are sound.
theorem readAs_read (accepted : read text = .ok p) (strict : Bool)
    (sound : strict = true → p.checkReferences = .ok ()) : readAs strict text = .ok p := by
  cases strict with
  | false => simp [readAs, accepted, Except.mapError]
  | true =>
      simp only [readAs, if_true, readStrict, accepted, Except.mapError, bind, Except.bind, sound rfl]
      rfl

-- A source gives back the program that it was written from.
theorem read_layout (legible : Legible p) :
    ∃ text, layout p = .ok text ∧ readAs false text = .ok p ∧
      (p.checkReferences = .ok () → readAs true text = .ok p) := by
  obtain ⟨lines, written, rules⟩ := rules_lines legible.rules
  have statements := declarations_denote legible.statements
  have results := declarations_denote legible.results
  have found := sections_layout (fun line member => (Denotes.all statements line member).1.unclosed)
    (fun line member => (Denotes.all results line member).1.unclosed)
    fun line member => (Denotes.all rules line member).1.unclosed
  have accepted := read_sections found (read_block statements) (read_block results) (read_block rules)
  refine ⟨_, ?_, readAs_read accepted false (by simp), fun sound => readAs_read accepted true fun _ => sound⟩
  simp only [layout, written]
  rfl

def tangled : Program where
  statements := [⟨Datum.ofChars "stmt results".toList, Datum.ofChars []⟩,
    ⟨Datum.ofChars [], Datum.ofChars "a THEN b".toList⟩]
  results := [⟨Datum.ofChars "THEN".toList, Datum.ofChars "endstmt".toList⟩]
  rules := [⟨.node .and (.leaf ⟨Datum.ofChars "IF x THEN y".toList, false⟩)
    (.leaf ⟨Datum.ofChars "stmt results".toList, true⟩), Datum.ofChars "THEN".toList⟩]

theorem read_layout_tangled : Legible tangled ∧
    ∃ text, layout tangled = .ok text ∧ readAs false text = .ok tangled ∧
      (tangled.checkReferences = .ok () → readAs true text = .ok tangled) := by
  have legible : Legible tangled := by
    refine ⟨?_, ?_, ?_⟩
    · simp only [tangled, List.forall_mem_cons, List.not_mem_nil, false_implies, implies_true, and_true]
      exact ⟨.fields (by decide) (by decide), .fields (by decide) (by decide)⟩
    · simp only [tangled, List.forall_mem_singleton]
      exact .fields (by decide) (by decide)
    · simp only [tangled, List.forall_mem_singleton]
      exact .rule (.node (.leaf (by decide)) (.leaf (by decide))) (by decide) (by decide)
  exact ⟨legible, read_layout legible⟩

end Triage.Source
