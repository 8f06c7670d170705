import Triage.Proofs.Source.Faults
import Triage.Proofs.Source.Rules
import Triage.Proofs.Text.Spacing

namespace Triage

-- Faults of one kind in one place. The texts that they quote may differ.
structure Fault.Matches (fault other : Fault) : Prop where
  kind : fault.kind = other.kind
  line : fault.location.line = other.location.line
  part : fault.location.part = other.location.part

inductive Alike (related : α → β → Prop) : Except Fault α → Except Fault β → Prop where
  | value (same : related value another) : Alike related (.ok value) (.ok another)
  | fault (same : Fault.Matches fault other) : Alike related (.error fault) (.error other)

namespace Alike
open Text

theorem bind {first : Except Fault α} {second : Except Fault β} {next : α → Except Fault γ}
    {after : β → Except Fault δ} (start : Alike related first second)
    (more : ∀ value another, related value another → Alike ending (next value) (after another)) :
    Alike ending (first >>= next) (second >>= after) := by
  cases start with
  | value same => exact more _ _ same
  | fault same => exact .fault same

theorem inSource {first : Except Fault α} {second : Except Fault β} (same : Alike related first second) :
    Alike related (Source.inSource first) (Source.inSource second) := by
  cases same with
  | value same => exact .value same
  | fault same => exact .fault ⟨same.kind, same.line, same.part⟩

theorem mapM {next : α → Except Fault γ} {after : β → Except Fault γ}
    (pairs : List.Forall₂ (fun value other => Alike Eq (next value) (after other)) values others) :
    Alike Eq (values.mapM next) (others.mapM after) := by
  induction pairs with
  | nil => exact .value rfl
  | cons here _ ih =>
      rw [List.mapM_cons, List.mapM_cons]
      refine here.bind fun first _ same => ih.bind fun later _ more => ?_
      rw [same, more]
      exact .value rfl

variable {texts others : List (List Char)}

theorem numbered {read : List Char → Nat → Except Fault α}
    (each : ∀ text other number, trim text = trim other → Alike Eq (read text number) (read other number))
    (same : texts.map trim = others.map trim) (start : Nat) :
    Alike Eq ((texts.zipIdx start).mapM fun (text, number) => read text number)
      ((others.zipIdx start).mapM fun (text, number) => read text number) := by
  apply mapM
  induction texts generalizing others start with
  | nil =>
      rw [List.map_nil, eq_comm, List.map_eq_nil_iff] at same
      subst same
      exact .nil
  | cons text texts ih =>
      obtain ⟨other, more, rfl, here, later⟩ := List.map_eq_cons_iff.mp same.symm
      exact .cons (each text other start here.symm) (ih later.symm (start + 1))

end Alike

namespace Source
open Triage.Text

theorem afterStart?_trail (solid : ∀ c ∈ pattern, isBlank c = false) (blank : allBlank trail = true)
    (text : List Char) : afterStart? pattern (text ++ trail) = (afterStart? pattern text).map (· ++ trail) := by
  have blanks := List.all_eq_true.mp blank
  induction pattern generalizing text with
  | nil => rfl
  | cons p pattern ih =>
      obtain ⟨here, later⟩ := List.forall_mem_cons.mp solid
      cases text with
      | nil =>
          cases trail with
          | nil => rfl
          | cons c trail =>
              have apart : p ≠ c := by
                rintro rfl
                exact absurd (blanks p (by simp)) (by simp [here])
              simp [afterStart?, apart]
      | cons c text =>
          by_cases same : p = c
          · simp [afterStart?, same, ih later]
          · simp [afterStart?, same]

theorem trimLeft_trail (solid : allBlank text = false) (trail : List Char) :
    trimLeft (text ++ trail) = trimLeft text ++ trail := by
  obtain ⟨lead, c, back, rfl, here⟩ := exists_solid solid
  rw [List.append_assoc, List.cons_append, trimLeft_append_solid here, trimLeft_append_solid here, List.append_assoc,
    List.cons_append]

theorem takeWhile_isWord_trail (blank : allBlank trail = true) (text : List Char) :
    (text ++ trail).takeWhile isWord = text.takeWhile isWord := by
  induction text with
  | nil =>
      cases trail with
      | nil => rfl
      | cons c trail => simp [show isWord c = false from opensWord_blank blank]
  | cons c text ih => simp only [List.cons_append, List.takeWhile_cons, ih]

-- A result is a word, so that blanks behind it are no part of it.
theorem thenResult?_trail (blank : allBlank trail = true) (text : List Char) :
    thenResult? (text ++ trail) = thenResult? text := by
  unfold thenResult?
  rw [afterStart?_trail (List.forall_iff_forall_mem.mp (by decide)) blank]
  cases afterStart? "THEN".toList text with
  | none => rfl
  | some rest =>
      cases solid : allBlank rest with
      | true =>
          have nothing : allBlank (rest ++ trail) = true := by rw [allBlank_append, solid, blank]; rfl
          simp [trimLeft_blank nothing, trimLeft_blank solid]
      | false =>
          have opens : thenResult?.opensBlank (rest ++ trail) = thenResult?.opensBlank rest := by
            cases rest with
            | nil => cases solid
            | cons c rest => rfl
          simp only [Option.map_some, opens, trimLeft_trail solid, takeWhile_isWord_trail blank]

theorem lastThen?_trail (blank : allBlank trail = true) (text : List Char) :
    lastThen? (text ++ trail) = lastThen? text := by
  induction text with
  | nil => exact lastThen?_blank blank
  | cons c text ih =>
      have inLine : thenResult? (trimLeft (text ++ trail)) = thenResult? (trimLeft text) := by
        cases solid : allBlank text with
        | true =>
            have nothing : allBlank (text ++ trail) = true := by rw [allBlank_append, solid, blank]; rfl
            rw [trimLeft_blank nothing, trimLeft_blank solid]
        | false => rw [trimLeft_trail solid, thenResult?_trail blank]
      rw [List.cons_append, lastThen?, lastThen?, inLine, ih, thenResult?_trail blank]

theorem takeWhile_isBlank_solid (solid : isBlank c = false) (lead back : List Char) :
    (lead ++ c :: back).takeWhile isBlank = lead.takeWhile isBlank := by
  induction lead with
  | nil => simp [solid]
  | cons first lead ih => simp only [List.cons_append, List.takeWhile_cons, ih]

theorem afterIf?_blank (blank : allBlank text = true) : afterIf? text = none := by
  have nothing : lastThen? [] = none ∧ thenResult? [] = none := ⟨rfl, rfl⟩
  simp only [afterIf?, trimLeft_blank blank, nothing, Option.map_none, ite_self]
  split <;> rfl

theorem afterIf?_trail (blank : allBlank trail = true) (text : List Char) :
    afterIf? (text ++ trail) = afterIf? text := by
  cases solid : allBlank text with
  | true =>
      have nothing : allBlank (text ++ trail) = true := by rw [allBlank_append, solid, blank]; rfl
      rw [afterIf?_blank nothing, afterIf?_blank solid]
  | false =>
      obtain ⟨lead, c, back, rfl, here⟩ := exists_solid solid
      have leading : ((lead ++ c :: back) ++ trail).takeWhile isBlank = (lead ++ c :: back).takeWhile isBlank := by
        rw [List.append_assoc, List.cons_append, takeWhile_isBlank_solid here, takeWhile_isBlank_solid here]
      simp only [afterIf?, leading, trimLeft_trail solid, lastThen?_trail blank, thenResult?_trail blank]

theorem ifThen?_trail (blank : allBlank trail = true) (text : List Char) : ifThen? (text ++ trail) = ifThen? text := by
  induction text with
  | nil =>
      have nothing : ifThen? (trail ++ []) = ifThen? [] := ifThen?_lead blank
      rwa [List.append_nil] at nothing
  | cons c text ih =>
      have here : (afterStart? "IF".toList (c :: (text ++ trail))).bind afterIf? =
          (afterStart? "IF".toList (c :: text)).bind afterIf? := by
        rw [← List.cons_append, afterStart?_trail (List.forall_iff_forall_mem.mp (by decide)) blank]
        cases afterStart? "IF".toList (c :: text) with
        | none => rfl
        | some rest => exact afterIf?_trail blank rest
      rw [List.cons_append, ifThen?, ifThen?, here, ih]

theorem ifThen?_trim (text : List Char) : ifThen? (trim text) = ifThen? text := by
  obtain ⟨lead, trail, leading, trailing, parts⟩ := trim_parts text
  have outside := congrArg ifThen? parts
  rw [ifThen?_trail trailing, ifThen?_lead leading] at outside
  exact outside.symm

variable {text other : List Char}

theorem readRule_alike (same : trim text = trim other) (number : Int) :
    Alike Eq (readRule number text) (readRule number other) := by
  have marks : ifThen? text = ifThen? other := by rw [← ifThen?_trim, same, ifThen?_trim]
  unfold readRule
  rw [marks]
  cases ifThen? other with
  | none => exact .fault ⟨rfl, rfl, rfl⟩
  | some found =>
      obtain ⟨condition, result⟩ := found
      cases outcome : Expr.read condition with
      | error inner => simpa only [outcome] using .fault ⟨rfl, rfl, rfl⟩
      | ok expression => simpa only [outcome] using .value rfl

theorem count_trim (solid : isBlank c = false) (text : List Char) : (trim text).count c = text.count c := by
  obtain ⟨lead, trail, leading, trailing, parts⟩ := trim_parts text
  have outside := congrArg (List.count c) parts
  rw [List.count_append, List.count_append, List.count_eq_zero.mpr (not_mem_blank leading solid),
    List.count_eq_zero.mpr (not_mem_blank trailing solid)] at outside
  omega

theorem exists_equals (single : text.count '=' = 1) :
    ∃ name value, text = name ++ '=' :: value ∧ '=' ∉ name ∧ '=' ∉ value := by
  have member : '=' ∈ text := List.count_pos_iff.mp (by omega)
  obtain ⟨name, value, rfl, before⟩ := List.eq_append_cons_of_mem member
  refine ⟨name, value, rfl, before, ?_⟩
  rw [List.count_append, List.count_cons_self, List.count_eq_zero.mpr before] at single
  exact List.count_eq_zero.mp (by omega)

theorem readDeclaration_alike (same : trim text = trim other) (part : List Char) (number : Nat) :
    Alike Eq (readDeclaration part number text) (readDeclaration part number other) := by
  have equals : isBlank '=' = false := by rfl
  have counts : text.count '=' = other.count '=' := by rw [← count_trim equals, same, count_trim equals]
  by_cases single : other.count '=' = 1
  · obtain ⟨name, value, rfl, left, right⟩ := exists_equals single
    rw [readDeclaration_parts same left right, readDeclaration_parts rfl left right]
    exact .value rfl
  · rw [readDeclaration_uneven (counts ▸ single), readDeclaration_uneven single]
    exact .fault ⟨rfl, rfl, rfl⟩

theorem findSome?_rel {f g : α → Option β} {r : β → β → Prop} (each : ∀ value, Option.Rel r (f value) (g value))
    (values : List α) : Option.Rel r (values.findSome? f) (values.findSome? g) := by
  induction values with
  | nil => exact .none
  | cons value values ih =>
      have here := each value
      rw [List.findSome?_cons, List.findSome?_cons]
      generalize f value = first at here ⊢
      generalize g value = second at here ⊢
      cases here with
      | none => exact ih
      | some same => exact .some same

theorem nextOpening?_gap (blank : allBlank gap = true) (filled : gap ≠ []) (inside : Bool) (text : List Char) :
    nextOpening? inside (gap ++ text) = nextOpening? false text := by
  induction gap generalizing inside with
  | nil => exact absurd rfl filled
  | cons c gap ih =>
      have parts : isBlank c = true ∧ allBlank gap = true := by simpa [allBlank] using blank
      rw [List.cons_append, nextOpening?_break (isWord_blank parts.1)]
      by_cases last : gap = []
      · rw [last, List.nil_append]
      · exact ih parts.2 last false

theorem nextOpening?_rel (spaced : Respaced text other) (inside : Bool) :
    Option.Rel (fun found another => found.1 = another.1 ∧ Respaced found.2 another.2)
      (nextOpening? inside text) (nextOpening? inside other) := by
  induction spaced generalizing inside with
  | nil => exact .none
  | @char c text other plain more ih =>
      have each (part : Section) : Option.Rel (fun found another => found.1 = another.1 ∧ Respaced found.2 another.2)
          ((wholeWord? part.opening inside (c :: text)).map fun rest => (part, rest))
          ((wholeWord? part.opening inside (c :: other)).map fun rest => (part, rest)) := by
        have whole := (Respaced.char plain more).wholeWord?_rel part.opening_lettered inside
        generalize wholeWord? part.opening inside (c :: text) = first at whole ⊢
        generalize wholeWord? part.opening inside (c :: other) = second at whole ⊢
        cases whole with
        | none => exact .none
        | some rest => exact .some ⟨rfl, rest⟩
      have here := findSome?_rel each Section.all
      have later := ih (isWord c)
      rw [nextOpening?, nextOpening?]
      generalize Section.all.findSome? (fun part =>
        (wholeWord? part.opening inside (c :: text)).map fun rest => (part, rest)) = first at here ⊢
      generalize Section.all.findSome? (fun part =>
        (wholeWord? part.opening inside (c :: other)).map fun rest => (part, rest)) = second at here ⊢
      cases here with
      | none => exact later
      | some same => exact .some same
  | @line gap text other blank breaks more ih =>
      have newline : nextOpening? inside ('\n' :: text) = nextOpening? false text := nextOpening?_break isWord_newline
      rw [newline, nextOpening?_gap blank (List.ne_nil_of_mem breaks)]
      exact ih false

def SameLines (enclosed another : List Char) : Prop :=
  (contentLines enclosed).map trim = (contentLines another).map trim

def SameBody (found another : Section × List Char) : Prop := found.1 = another.1 ∧ SameLines found.2 another.2

theorem bodies_respaced (spaced : Respaced text other) (inside : Bool) :
    List.Forall₂ SameBody (bodies inside text) (bodies inside other) := by
  induction length : text.length using Nat.strong_induction_on generalizing text other inside with
  | _ size ih =>
    have next := nextOpening?_rel spaced inside
    generalize opening : nextOpening? inside text = first at next
    generalize opened : nextOpening? inside other = second at next
    cases next with
    | none =>
        rw [bodies_none opening, bodies_none opened]
        exact .nil
    | @some found another same =>
        obtain ⟨part, rest⟩ := found
        obtain ⟨_, tail⟩ := another
        obtain ⟨rfl, more⟩ := same
        have shorter : rest.length < size := length ▸ nextOpening?_shorter opening
        have cuts := more.cutWord?_rel part.closing_lettered true
        generalize closing : cutWord? part.closing true rest = third at cuts
        generalize closed : cutWord? part.closing true tail = fourth at cuts
        cases cuts with
        | none =>
            rw [bodies_unclosed opening closing, bodies_unclosed opened closed]
            exact ih rest.length shorter more true rfl
        | @some cut other parts =>
            obtain ⟨enclosed, after⟩ := cut
            obtain ⟨enclosing, beyond⟩ := other
            rw [bodies_closed opening closing, bodies_closed opened closed]
            have lines : SameLines (trim enclosed) (trim enclosing) := by
              rw [SameLines, contentLines_trim, contentLines_trim, parts.1.contentLines_eq]
            have bound := cutWord?_shorter closing
            exact .cons ⟨rfl, lines⟩ (ih after.length (by omega) parts.2 true rfl)

theorem body_alike (same : List.Forall₂ SameBody found another) (part : Section) :
    Alike SameLines (body found part) (body another part) := by
  induction same with
  | nil => exact .fault ⟨rfl, rfl, rfl⟩
  | @cons piece other found another here _ ih =>
      obtain ⟨kind, enclosed⟩ := piece
      obtain ⟨_, enclosing⟩ := other
      obtain ⟨rfl, lines⟩ := here
      simp only [body] at ih ⊢
      by_cases sought : kind = part
      · simpa [sought] using .value lines
      · simpa [sought] using ih

structure SameSections (found another : Sections) : Prop where
  statements : SameLines found.statements another.statements
  results : SameLines found.results another.results
  rules : SameLines found.rules another.rules

theorem sections_alike (spaced : Respaced text other) : Alike SameSections (sections text) (sections other) := by
  have same := bodies_respaced spaced false
  refine (body_alike same .statements).bind fun _ _ statements => (body_alike same .results).bind fun _ _ results =>
    (body_alike same .rules).bind fun _ _ rules => ?_
  exact .value ⟨statements, results, rules⟩

theorem readDeclarations_alike (same : SameLines enclosed another) (part : List Char) :
    Alike Eq (readDeclarations enclosed part) (readDeclarations another part) :=
  Alike.numbered (fun _ _ number same => readDeclaration_alike same part number) same 1

theorem readRules_alike (same : SameLines enclosed another) : Alike Eq (readRules enclosed) (readRules another) := by
  have each (text other : List Char) (number : Nat) (same : trim text = trim other) :
      Alike Eq (readRule number text) (readRule number other) := readRule_alike same number
  exact Alike.numbered each same 1

theorem read_alike (spaced : Respaced text other) : Alike Eq (read text) (read other) := by
  refine (sections_alike spaced).bind fun found another same => ?_
  refine (readDeclarations_alike same.statements _).inSource.bind fun statements _ first => ?_
  refine (readDeclarations_alike same.results _).inSource.bind fun results _ second => ?_
  refine (readRules_alike same.rules).inSource.bind fun rules _ third => ?_
  rw [first, second, third]
  exact .value rfl

theorem readAs_loose_respaced (spaced : Respaced text other) :
    (∀ p, readAs false text = .ok p → readAs false other = .ok p) ∧
    ∀ failure, readAs false text = .error failure →
      ∃ fault found, failure = .fault fault ∧ readAs false other = .error (.fault found) ∧ fault.Matches found := by
  have alike := read_alike spaced
  constructor
  · intro p accepted
    rw [readAs_loose_eq_ok] at accepted ⊢
    rw [accepted] at alike
    generalize read other = outcome at alike ⊢
    cases alike with
    | value same => rw [same]
  · intro failure failed
    obtain ⟨fault, unread, rfl⟩ := readAs_loose_eq_error.mp failed
    rw [unread] at alike
    generalize outcome : read other = second at alike
    cases alike with
    | fault same => exact ⟨fault, _, rfl, readAs_loose_eq_error.mpr ⟨_, outcome, rfl⟩, same⟩

-- However newlines are replaced by blanks with newlines among them, the source gives the same
-- program, or else its first fault has the same kind, line and section.
theorem readAs_respaced (spaced : Respaced text other) (strict : Bool) :
    (∀ p, readAs strict text = .ok p → readAs strict other = .ok p) ∧
    ∀ failure, readAs strict text = .error failure →
      ∃ fault found, failure = .fault fault ∧ readAs strict other = .error (.fault found) ∧ fault.Matches found := by
  obtain ⟨same, failing⟩ := readAs_loose_respaced spaced
  cases strict with
  | false => exact ⟨same, failing⟩
  | true =>
      constructor
      · intro p accepted
        obtain ⟨loose, sound⟩ := readAs_strict_eq_ok.mp accepted
        exact readAs_strict_eq_ok.mpr ⟨same p loose, sound⟩
      · intro failure failed
        rcases readAs_strict_eq_error.mp failed with failed | ⟨p, fault, loose, checked, rfl⟩
        · obtain ⟨fault, found, rfl, refused, matching⟩ := failing failure failed
          exact ⟨fault, found, rfl, readAs_strict_eq_error.mpr (Or.inl refused), matching⟩
        · -- The programs are equal, and so is what their references lack.
          have refused := readAs_strict_eq_error.mpr (Or.inr ⟨p, fault, same p loose, checked, rfl⟩)
          exact ⟨_, _, rfl, refused, ⟨rfl, rfl, rfl⟩⟩

def joinEnds (lines : List (List Char × List Char)) : List Char := lines.flatMap fun (line, gap) => line ++ gap

theorem joinEnds_respaced {lines : List (List Char × List Char)}
    (ends : ∀ line ∈ lines, '\n' ∉ line.1 ∧ allBlank line.2 = true ∧ '\n' ∈ line.2) :
    Respaced (joinEnds (lines.map fun (line, _) => (line, ['\n']))) (joinEnds lines) := by
  induction lines with
  | nil => exact .nil
  | cons line lines ih =>
      obtain ⟨⟨oneLine, blank, breaks⟩, later⟩ := List.forall_mem_cons.mp ends
      have ended := Respaced.line blank breaks .nil
      rw [List.append_nil] at ended
      exact ((Respaced.plain oneLine).append ended).append (ih later)

-- A source in which the second rule lacks its marks, with blanks of several scripts and blank lines.
def sparse : List (List Char × List Char) :=
  [("stmt", "\r\n    "), ("a = Is it loud?", " \t\n"), ("endstmt results r = Replace it. endresults rules", "\u2028\n\n"),
    ("IF a THEN r", "\x0b\n \r\n\u3000"), ("IF", "\n"), ("endrules", "\x1c\n")].map
      fun (line, gap) => (line.toList, gap.toList)

theorem readAs_respaced_sparse :
    Respaced (joinEnds (sparse.map fun (line, _) => (line, ['\n']))) (joinEnds sparse) ∧
    ∃ found, readAs true (joinEnds sparse) = .error (.fault found) ∧ found.kind = .malformedRule ∧
      found.location.line = some 2 ∧ found.location.part = some Section.rules.opening := by
  have spaced : Respaced (joinEnds (sparse.map fun (line, _) => (line, ['\n']))) (joinEnds sparse) :=
    joinEnds_respaced (by decide)
  have failed : readAs true (joinEnds (sparse.map fun (line, _) => (line, ['\n']))) =
      .error (.fault (.inSource (.malformedRule 2 "IF".toList))) := by decide +kernel
  obtain ⟨fault, found, same, refused, matching⟩ := (readAs_respaced spaced true).2 _ failed
  cases same
  exact ⟨spaced, found, refused, matching.kind.symm, matching.line.symm, matching.part.symm⟩

end Source

end Triage
