import Triage.Proofs.Page.Embedding
import Triage.Proofs.Page.Entity

namespace Triage.Page
open Triage.Text

inductive Field where
  | title
  | heading
  | label
  | choice
  deriving DecidableEq

namespace Field

def tag : Field → String
  | title => "<title>"
  | heading => "<h1>"
  | label => "<div class=\"statement\">\n                <label>"
  | choice => "<input type=\"radio\" name=\""

def stop : Field → String
  | title => "</title>"
  | heading => "</h1>"
  | label => "</label>"
  | choice => "\""

def contents (field : Field) (text : List Char) : List (List Char) :=
  (between field.tag.toList field.stop.toList text).map unescape

end Field

def tags : List String := [Field.title, .heading, .label, .choice].map Field.tag ++ ["<script>"]

def scriptEnd : String := "</script"

theorem script_member : "<script>" ∈ tags := List.mem_append_right _ (List.mem_singleton_self _)

def lowered (text : List Char) : List Char := text.map Char.toLower

section Inert

def Endless (text : List Char) : Prop := Passes scriptEnd.toList (lowered text)

theorem Endless.append (first : Endless front) (second : Endless back) : Endless (front ++ back) := by
  rw [Endless, lowered, List.map_append]
  exact Passes.append first second

def Inert (text : List Char) : Prop := (∀ tag ∈ tags, Passes tag.toList text) ∧ Endless text

theorem Inert.append (first : Inert front) (second : Inert back) : Inert (front ++ back) := by
  refine ⟨?_, first.2.append second.2⟩
  intro tag member
  exact (first.1 tag member).append (second.1 tag member)

-- How the tags begin, letter by letter, which makes it fast to decide that a text is inert.
def stems : List (List Char) := [['<', 't'], ['<', 'h', '1'],
  ['<', 'd', 'i', 'v', ' ', 'c', 'l', 'a', 's', 's', '=', '"', 's'], ['<', 'i'], ['<', 's', 'c']]

theorem inert_stems (each : (∀ stem ∈ stems, Passes stem text) ∧ Passes ['<', '/', 's', 'c'] (lowered text)) :
    Inert text := by
  have begins : ∀ tag ∈ tags, ∃ stem ∈ stems, stem <+: tag.toList := by decide +kernel
  refine ⟨?_, each.2.longer (by decide +kernel)⟩
  intro tag member
  obtain ⟨stem, inStems, start⟩ := begins tag member
  exact (each.1 stem inStems).longer start

theorem tags_first : ∀ tag ∈ tags, tag.toList.head? = some '<' ∧ Passes tag.toList tag.toList.tail := by
  decide +kernel

instance (text : List Char) : Decidable (Endless text) :=
  inferInstanceAs (Decidable (Passes scriptEnd.toList (lowered text)))

theorem tags_apart : ∀ tag ∈ tags, Endless tag.toList ∧
    ∀ other ∈ tags, tag ≠ other → Passes tag.toList other.toList := by
  decide +kernel

theorem toLower_below {c d : Char} (below : d.toNat < 97) (same : c.toLower = d) : c = d := by
  unfold Char.toLower at same
  split at same
  · rename_i upper
    have value : (c.val + 32).toNat = d.toNat := congrArg Char.toNat same
    have low : 65 ≤ c.val.toNat := upper.1
    have high : c.val.toNat ≤ 90 := upper.2
    have small : (32 : UInt32).toNat = 32 := rfl
    rw [UInt32.toNat_add, Nat.mod_eq_of_lt (by omega)] at value
    omega
  · exact same

theorem inert_tagless (tagless : '<' ∉ text) : Inert text := by
  refine ⟨?_, ?_⟩
  · intro tag member
    obtain ⟨more, parts⟩ := List.head?_eq_some_iff.mp (tags_first tag member).1
    rw [parts]
    exact Passes.lacking tagless
  · apply Passes.lacking
    intro inLowered
    obtain ⟨c, member, same⟩ := List.mem_map.mp inLowered
    rw [toLower_below (by decide) same] at member
    exact tagless member

theorem escape_lacks (mark : isMark c = true) (text : List Char) : c ∉ escape text := by
  intro member
  rw [escape_unmarked text c member] at mark
  cases mark

theorem inert_escape (text : List Char) : Inert (escape text) := inert_tagless (escape_lacks rfl text)

theorem style_tagless : '<' ∉ style := by
  refine List.not_mem_cons_of_ne_of_not_mem (by decide) ?_
  apply And.right
  apply tame_lines
  repeat refine List.forall_mem_cons.mpr ⟨ofLetters _ (by decide +kernel), ?_⟩
  exact List.forall_mem_nil _

theorem inert_stop (field : Field) : Inert field.stop.toList := by
  apply inert_stems
  cases field <;> decide +kernel

-- Escaped text never has the end of its place in it.
theorem Field.stop_first (field : Field) : ∃ c letters, field.stop.toList = c :: letters ∧ isMark c = true := by
  cases field <;> exact ⟨_, _, rfl, rfl⟩

end Inert

namespace Field

def Filled (field : Field) (data text : List Char) : Prop :=
  ∃ front back, Inert front ∧ Inert back ∧
    text = front ++ (field.tag.toList ++ (escape data ++ (field.stop.toList ++ back)))

variable {field : Field} {data text : List Char}

theorem tag_member (field : Field) : field.tag ∈ tags := by
  cases field <;> decide

theorem tag_unlike (unlike : field ≠ other) : field.tag ≠ other.tag := by
  intro same
  apply unlike
  cases field <;> cases other <;> first | rfl | exact absurd same (by decide)

theorem tag_script (field : Field) : "<script>" ≠ field.tag := by
  cases field <;> decide

theorem Filled.carries (filled : field.Filled data text) (holds : List Char → Prop)
    (append : ∀ front back, holds front → holds back → holds (front ++ back)) (inert : ∀ text, Inert text → holds text)
    (tag : holds field.tag.toList) : holds text := by
  obtain ⟨front, back, inFront, inBack, rfl⟩ := filled
  apply append _ _ (inert front inFront)
  apply append _ _ tag
  apply append _ _ (inert _ (inert_escape data))
  exact append _ _ (inert _ (inert_stop field)) (inert back inBack)

theorem Filled.passes (filled : field.Filled data text) (inTags : other ∈ tags) (unlike : other ≠ field.tag) :
    Passes other.toList text :=
  filled.carries _ (fun _ _ => Passes.append) (fun _ inert => inert.1 other inTags)
    ((tags_apart other inTags).2 field.tag field.tag_member unlike)

theorem Filled.endless (filled : field.Filled data text) : Endless text :=
  filled.carries Endless (fun _ _ => Endless.append) (fun _ inert => inert.2) (tags_apart field.tag field.tag_member).1

theorem Filled.contents (filled : field.Filled data text) (more : List Char) :
    field.contents (text ++ more) = data :: field.contents more := by
  obtain ⟨front, back, inFront, inBack, rfl⟩ := filled
  obtain ⟨c, letters, stop, mark⟩ := field.stop_first
  obtain ⟨first, apart⟩ := tags_first field.tag field.tag_member
  obtain ⟨rest, tag⟩ := List.head?_eq_some_iff.mp first
  have opens : field.tag.toList ≠ [] := by simp [tag]
  have stops : field.stop.toList ≠ [] := by simp [stop]
  have unclosed : Passes field.stop.toList (escape data) := by
    rw [stop]
    exact Passes.lacking (escape_lacks mark data)
  have after := ((inert_stop field).append inBack).1 field.tag field.tag_member
  have found := between_part opens stops apart (inFront.1 field.tag field.tag_member)
    ((inert_escape data).1 field.tag field.tag_member) unclosed after more
  simp only [Field.contents, List.append_assoc, found, List.map_cons, unescape_escape]

theorem contents_passes (passes : Passes field.tag.toList text) (more : List Char) :
    field.contents (text ++ more) = field.contents more := by
  rw [contents, between_passes passes, contents]

theorem Filled.skipped (filled : other.Filled data text) (field : Field) (unlike : field ≠ other) (more : List Char) :
    field.contents (text ++ more) = field.contents more :=
  contents_passes (filled.passes field.tag_member (tag_unlike unlike)) more

theorem contents_none (passes : Passes field.tag.toList text) : field.contents text = [] := by
  rw [contents, between_none passes, List.map_nil]

end Field

section Parts

def letters : Datum → List Char
  | .text s => s.toList
  | _ => []

def partsOf (declaration : Declaration) : List Part :=
  statementParts (letters declaration.name) (letters declaration.value)

def pageStart (title : List Char) (p : Program) : List Char :=
  (opening title (p.statements.map partsOf).flatten).flatMap Part.render

theorem statement_fields (declaration : Declaration) : ∃ question yes no,
    Field.label.Filled (letters declaration.value) question ∧ Field.choice.Filled (letters declaration.name) yes ∧
      Field.choice.Filled (letters declaration.name) no ∧
      (partsOf declaration).flatMap Part.render = question ++ (yes ++ no) := by
  have question : "            <div class=\"statement\">\n                <label>".toList =
      "            ".toList ++ Field.label.tag.toList := by rw [← String.toList_append]; rfl
  have choices : "</label>\n                <div class=\"options\">\n".toList =
      Field.label.stop.toList ++ "\n                <div class=\"options\">\n".toList := by
    rw [← String.toList_append]; rfl
  have choice : "                    <label><input type=\"radio\" name=\"".toList =
      "                    <label>".toList ++ Field.choice.tag.toList := by
    rw [← String.toList_append]; rfl
  have yes : "\" value=\"yes\"> Yes</label>\n".toList =
      Field.choice.stop.toList ++ " value=\"yes\"> Yes</label>\n".toList := by
    rw [← String.toList_append]; rfl
  have no : "\" value=\"no\"> No</label>\n                </div>\n            </div>\n".toList =
      Field.choice.stop.toList ++ " value=\"no\"> No</label>\n                </div>\n            </div>\n".toList := by
    rw [← String.toList_append]; rfl
  have blanks : Inert "                    <label>".toList := ofLetters _ (inert_stems (by decide +kernel))
  refine ⟨_, _, _, ⟨"            ".toList, "\n                <div class=\"options\">\n".toList, ?_, ?_, rfl⟩,
    ⟨"                    <label>".toList, " value=\"yes\"> Yes</label>\n".toList, blanks, ?_, rfl⟩,
    ⟨"                    <label>".toList, " value=\"no\"> No</label>\n                </div>\n            </div>\n".toList,
      blanks, ?_, rfl⟩, ?_⟩
  iterate 4 exact ofLetters _ (inert_stems (by decide +kernel))
  simp only [partsOf, statementParts, List.flatMap_cons, List.flatMap_nil, Part.render, question, choices, choice, yes, no,
    List.append_assoc, List.append_nil]

theorem pageStart_fields (title : List Char) (p : Program) : ∃ first second after,
    Field.title.Filled title first ∧ Field.heading.Filled title second ∧ Inert after ∧
      pageStart title p = first ++ (second ++
        (p.statements.flatMap (fun declaration => (partsOf declaration).flatMap Part.render) ++
          (after ++ "<script>".toList))) := by
  have start : "<!DOCTYPE html>\n<html>\n<head>\n    <meta charset=\"utf-8\">\n    <title>".toList =
      "<!DOCTYPE html>\n<html>\n<head>\n    <meta charset=\"utf-8\">\n    ".toList ++ Field.title.tag.toList := by
    rw [← String.toList_append]; rfl
  have titled : "</title>\n    <style>".toList = Field.title.stop.toList ++ "\n    <style>".toList := by
    rw [← String.toList_append]; rfl
  have styled : "    </style>\n</head>\n<body>\n    <div class=\"container\">\n        <h1>".toList =
      "    </style>\n</head>\n<body>\n    <div class=\"container\">\n        ".toList ++ Field.heading.tag.toList := by
    rw [← String.toList_append]; rfl
  have headed :
      "</h1>\n        <h2>Answer the following questions:</h2>\n        <form id=\"ruleForm\">\n".toList =
      Field.heading.stop.toList ++
        "\n        <h2>Answer the following questions:</h2>\n        <form id=\"ruleForm\">\n".toList := by
    rw [← String.toList_append]; rfl
  have ended : "        <div id=\"result\"></div>\n    </div>\n    <script>".toList =
      "        <div id=\"result\"></div>\n    </div>\n    ".toList ++ "<script>".toList := by
    rw [← String.toList_append]; rfl
  refine ⟨_, _,
    "            <button type=\"submit\">Diagnose</button>\n        </form>\n        <h2>Result:</h2>\n".toList ++
      "        <div id=\"result\"></div>\n    </div>\n    ".toList,
    ⟨"<!DOCTYPE html>\n<html>\n<head>\n    <meta charset=\"utf-8\">\n    ".toList,
      "\n    <style>".toList ++ style, ?_, ?_, rfl⟩,
    ⟨"    </style>\n</head>\n<body>\n    <div class=\"container\">\n        ".toList,
      "\n        <h2>Answer the following questions:</h2>\n        <form id=\"ruleForm\">\n".toList, ?_, ?_, rfl⟩,
    ?_, ?_⟩
  · exact ofLetters _ (inert_stems (by decide +kernel))
  · exact .append (ofLetters _ (inert_stems (by decide +kernel))) (inert_tagless style_tagless)
  · exact ofLetters _ (inert_stems (by decide +kernel))
  · exact ofLetters _ (inert_stems (by decide +kernel))
  · exact .append (ofLetters _ (inert_stems (by decide +kernel))) (ofLetters _ (inert_stems (by decide +kernel)))
  · have flat : (p.statements.map partsOf).flatten.flatMap Part.render =
        p.statements.flatMap fun declaration => (partsOf declaration).flatMap Part.render := by
      rw [← List.flatMap_def, List.flatMap_assoc]
    simp only [pageStart, opening, beforeTitle, beforeHeading, beforeScript, flat, List.cons_append, List.nil_append,
      List.flatMap_cons, List.flatMap_append, List.flatMap_nil, Part.render, start, titled, styled, headed, ended,
      String.toList_ofList, List.append_assoc, List.append_nil]

end Parts

section Reading

variable (title : List Char) (p : Program)

def Field.asked (field : Field) (declaration : Declaration) : List (List Char) :=
  match field with
  | .title | .heading => []
  | .label => [letters declaration.value]
  | .choice => [letters declaration.name, letters declaration.name]

theorem contents_statement (field : Field) (declaration : Declaration) (more : List Char) :
    field.contents ((partsOf declaration).flatMap Part.render ++ more) = field.asked declaration ++ field.contents more := by
  obtain ⟨question, yes, no, inQuestion, inYes, inNo, parts⟩ := statement_fields declaration
  rw [parts, List.append_assoc, List.append_assoc]
  cases field with
  | title => rw [inQuestion.skipped .title nofun, inYes.skipped .title nofun, inNo.skipped .title nofun]; rfl
  | heading => rw [inQuestion.skipped .heading nofun, inYes.skipped .heading nofun, inNo.skipped .heading nofun]; rfl
  | label => rw [inQuestion.contents, inYes.skipped .label nofun, inNo.skipped .label nofun]; rfl
  | choice => rw [inQuestion.skipped .choice nofun, inYes.contents, inNo.contents]; rfl

theorem contents_statements (field : Field) (declarations : List Declaration) (more : List Char) :
    field.contents (declarations.flatMap (fun declaration => (partsOf declaration).flatMap Part.render) ++ more) =
      declarations.flatMap field.asked ++ field.contents more := by
  induction declarations with
  | nil => rfl
  | cons declaration declarations ih =>
      rw [List.flatMap_cons, List.flatMap_cons, List.append_assoc, contents_statement, ih, List.append_assoc]

def Field.given (field : Field) (title : List Char) (p : Program) : List (List Char) :=
  match field with
  | .title | .heading => [title]
  | .label | .choice => p.statements.flatMap field.asked

theorem contents_pageStart (field : Field) : field.contents (pageStart title p) = field.given title p := by
  obtain ⟨first, second, after, inFirst, inSecond, inAfter, parts⟩ := pageStart_fields title p
  have script := (tags_apart field.tag field.tag_member).2 "<script>" script_member field.tag_script.symm
  have none : field.contents (after ++ "<script>".toList) = [] :=
    Field.contents_none ((inAfter.1 field.tag field.tag_member).append script)
  have empty : p.statements.flatMap (fun _ => ([] : List (List Char))) = [] := List.flatMap_eq_nil_iff.mpr fun _ _ => rfl
  rw [parts]
  cases field with
  | title =>
      rw [inFirst.contents, inSecond.skipped .title nofun, contents_statements, none, List.append_nil]
      exact congrArg (title :: ·) empty
  | heading =>
      rw [inFirst.skipped .heading nofun, inSecond.contents, contents_statements, none, List.append_nil]
      exact congrArg (title :: ·) empty
  | label =>
      rw [inFirst.skipped .label nofun, inSecond.skipped .label nofun, contents_statements, none, List.append_nil]
      rfl
  | choice =>
      rw [inFirst.skipped .choice nofun, inSecond.skipped .choice nofun, contents_statements, none, List.append_nil]
      rfl

theorem statements_carry (holds : List Char → Prop) (nil : holds [])
    (append : ∀ front back, holds front → holds back → holds (front ++ back))
    (filled : ∀ field data text, Field.Filled field data text → holds text) (declarations : List Declaration) :
    holds (declarations.flatMap fun declaration => (partsOf declaration).flatMap Part.render) := by
  induction declarations with
  | nil => exact nil
  | cons declaration declarations ih =>
      obtain ⟨question, yes, no, inQuestion, inYes, inNo, parts⟩ := statement_fields declaration
      rw [List.flatMap_cons, parts]
      apply append _ _ _ ih
      apply append _ _ (filled _ _ _ inQuestion)
      exact append _ _ (filled _ _ _ inYes) (filled _ _ _ inNo)

theorem pageStart_endless : Endless (pageStart title p) := by
  obtain ⟨first, second, after, inFirst, inSecond, inAfter, parts⟩ := pageStart_fields title p
  rw [parts]
  apply inFirst.endless.append
  apply inSecond.endless.append
  apply Endless.append
  · exact statements_carry Endless trivial (fun _ _ => Endless.append) (fun _ _ _ filled => filled.endless) _
  · exact inAfter.2.append (tags_apart "<script>" script_member).1

theorem cut_script (rest : List Char) : ∃ front, pageStart title p = front ++ "<script>".toList ∧
    cut? "<script>".toList (pageStart title p ++ rest) = some (front, rest) := by
  obtain ⟨first, second, after, inFirst, inSecond, inAfter, parts⟩ := pageStart_fields title p
  have passes : Passes "<script>".toList (first ++ (second ++
      (p.statements.flatMap (fun declaration => (partsOf declaration).flatMap Part.render) ++ after))) := by
    apply (inFirst.passes script_member Field.title.tag_script).append
    apply (inSecond.passes script_member Field.heading.tag_script).append
    apply Passes.append _ (inAfter.1 "<script>" script_member)
    apply statements_carry (Passes "<script>".toList) trivial (fun _ _ => Passes.append)
    intro field data text filled
    exact filled.passes script_member field.tag_script
  have found := cut?_first (by decide) passes rest
  have whole : pageStart title p = (first ++ (second ++
      (p.statements.flatMap (fun declaration => (partsOf declaration).flatMap Part.render) ++ after))) ++
        "<script>".toList := by
    rw [parts]
    simp only [List.append_assoc]
  refine ⟨_, whole, ?_⟩
  rw [whole, List.append_assoc _ "<script>".toList rest]
  exact found

end Reading

section Script

def scriptParts? (page : List Char) : Option (List Char × List Char × List Char) :=
  (cut? "<script>".toList page).bind fun (before, rest) =>
    (cut? "</script>".toList rest).map fun (body, after) =>
      (before ++ "<script>".toList, body, "</script>".toList ++ after)

def margin : String := "    "

def pageEnd : String := "</script>\n</body>\n</html>\n"

variable {p : Program}

theorem closing_parts : closing.flatMap Part.render = margin.toList ++ pageEnd.toList := by
  rw [closing, List.flatMap_singleton, Part.render, margin, pageEnd, ← String.toList_append]
  rfl

theorem declarationParts_texts (texts : p.Every Datum.isText) :
    p.statements.mapM declarationParts = .ok (p.statements.map partsOf) := by
  rw [mapM_eq_ok, List.forall₂_map_right_iff, List.forall₂_same]
  intro declaration member
  obtain ⟨nameText, valueText⟩ := Bool.and_eq_true_iff.mp (texts.statements declaration member)
  obtain ⟨name, isName⟩ := Datum.exists_text nameText
  obtain ⟨value, isValue⟩ := Datum.exists_text valueText
  rw [declarationParts, partsOf, isName, isValue]
  rfl

theorem render_texts (texts : p.Every Datum.isText) (proper : p.Proper) (title : String) :
    render (.text title) p = .ok (pageStart title.toList p ++ ((scriptText (data p) ++ margin.toList) ++ pageEnd.toList)) := by
  rw [render, ofProgram_data proper texts, declarationParts_texts texts, closing_parts]
  simp only [textOf, bind, Except.bind, pure, Except.pure, pageStart, List.append_assoc]

theorem render_untitled (texts : p.Every Datum.isText) (proper : p.Proper) (nothing : title.isText = false) :
    render title p = .error (.notText title) := by
  have refused : textOf title = .error (.notText title) := by
    cases title with
    | text s => cases nothing
    | _ => rfl
  rw [render, ofProgram_data proper texts, declarationParts_texts texts, refused]
  rfl

theorem body_closed (p : Program) : ¬['<', '/'] <:+: scriptText (data p) ++ margin.toList := by
  have blanks : ¬['<', '/'] <:+: margin.toList ∧ margin.toList.head? ≠ some '/' := by decide
  rw [pair_append]
  intro stands
  rcases stands with inScript | inMargin | ⟨_, next⟩
  · exact scriptText_closed p inScript
  · exact blanks.1 inMargin
  · exact blanks.2 next

theorem body_passes (p : Program) : Passes "</script>".toList (scriptText (data p) ++ margin.toList) := by
  have last : (scriptText (data p) ++ margin.toList).getLast? ≠ some '<' := by
    have blank : margin.toList.getLast? = some ' ' := by decide
    rw [List.getLast?_append, blank]
    simp
  exact Passes.pairless (body_closed p) last

-- The script ends where its end stands first: none is inside.
theorem scriptParts?_render (title : List Char) (p : Program) :
    scriptParts? (pageStart title p ++ ((scriptText (data p) ++ margin.toList) ++ pageEnd.toList)) =
      some (pageStart title p, scriptText (data p) ++ margin.toList, pageEnd.toList) := by
  obtain ⟨front, start, begins⟩ := cut_script title p ((scriptText (data p) ++ margin.toList) ++ pageEnd.toList)
  have ends : pageEnd.toList = "</script>".toList ++ "\n</body>\n</html>\n".toList := by
    rw [pageEnd, ← String.toList_append]
    rfl
  have passes := body_passes p
  have stops := cut?_first (by decide) passes "\n</body>\n</html>\n".toList
  rw [← ends] at stops
  rw [scriptParts?, begins, Option.bind_some]
  dsimp only
  rw [stops, Option.map_some]
  dsimp only
  rw [← start, ← ends]

end Script

end Triage.Page
