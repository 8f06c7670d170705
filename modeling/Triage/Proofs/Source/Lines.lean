import Triage.Proofs.Expr.Leaf
import Triage.Proofs.Outcome
import Triage.Proofs.Source.Sections

namespace Triage.Source
open Triage.Text

structure Inline (part : Section) (text : List Char) : Prop where
  oneLine : '\n' ∉ text
  unclosed : ¬HasWord part.closing text

instance (part : Section) (text : List Char) : Decidable (Inline part text) :=
  decidable_of_iff ('\n' ∉ text ∧ cutWord? part.closing false text = none) (by
    rw [cutWord?_eq_none part.closing_lettered.filled]
    exact ⟨fun ⟨plain, unclosed⟩ => ⟨plain, unclosed⟩, fun ⟨plain, unclosed⟩ => ⟨plain, unclosed⟩⟩)

namespace Inline

theorem nil (part : Section) : Inline part [] := ⟨by simp, not_hasWord_nil part.closing_lettered.filled⟩

theorem word (lettered : Lettered text) (apart : text ≠ part.closing) : Inline part text := by
  refine ⟨fun member => ?_, fun has => apart (hasWord_word lettered.letters has).symm⟩
  have letter := lettered.letter member
  rw [isWord_newline] at letter
  cases letter

-- No closing word comes about over a character that is in no word.
theorem join (left : Inline part front) (apart : isWord c = false) (plain : c ≠ '\n') (right : Inline part back) :
    Inline part (front ++ c :: back) := by
  refine ⟨by simp [left.oneLine, right.oneLine, plain.symm], ?_⟩
  rw [hasWord_append_break apart part.closing_lettered]
  exact not_or.mpr ⟨left.unclosed, right.unclosed⟩

end Inline

-- A line of the section that is read as the value, whatever blanks stand around it.
structure Denotes (part : Section) (read : List Char → Nat → Except Fault α) (line : List Char) (value : α) : Prop
    extends Inline part line where
  solid : allBlank line = false
  reads : ∀ text number, trim text = trim line → read text number = .ok value

variable {read : List Char → Nat → Except Fault α} {texts written : List (List Char)} {values : List α}

theorem Denotes.all (denotes : List.Forall₂ (Denotes part read) written values) :
    ∀ line ∈ written, Inline part line ∧ allBlank line = false := by
  induction denotes with
  | nil => simp
  | cons here _ ih =>
      intro line member
      rcases List.mem_cons.mp member with rfl | later
      · exact ⟨here.toInline, here.solid⟩
      · exact ih line later

theorem mapM_lines (denotes : List.Forall₂ (Denotes part read) written values)
    (same : texts.map trim = written.map trim) (start : Nat) :
    ((texts.zipIdx start).mapM fun (text, number) => read text number) = .ok values := by
  rw [mapM_eq_ok]
  induction denotes generalizing texts start with
  | nil =>
      rw [List.map_nil, List.map_eq_nil_iff] at same
      subst same
      exact .nil
  | cons here _ ih =>
      obtain ⟨text, rest, rfl, first, later⟩ := List.map_eq_cons_iff.mp same
      exact .cons (here.reads text start first) (ih later (start + 1))

theorem read_block (denotes : List.Forall₂ (Denotes part read) written values) :
    (((contentLines (trim (block written))).zipIdx 1).mapM fun (text, number) => read text number) = .ok values := by
  have all := Denotes.all denotes
  exact mapM_lines denotes
    (contentLines_block (fun line member => (all line member).1.oneLine) fun line member => (all line member).2) 1

theorem readDeclaration_parts (same : trim text = trim (name ++ '=' :: value)) (left : '=' ∉ name)
    (right : '=' ∉ value) :
    readDeclaration part number text = .ok ⟨Datum.ofChars (trim name), Datum.ofChars (trim value)⟩ := by
  have equals : isBlank '=' = false := by rfl
  obtain ⟨lead, trail, leading, trailing, parts⟩ := trim_parts text
  rw [same, trim_append_solid equals] at parts
  have cut : text = (lead ++ trimLeft name) ++ '=' :: (trimRight value ++ trail) := by
    rw [parts]
    simp only [List.append_assoc, List.cons_append]
  have before : '=' ∉ lead ++ trimLeft name := by
    intro member
    rcases List.mem_append.mp member with outside | inside
    · exact not_mem_blank leading equals outside
    · exact left (mem_trimLeft inside)
  have after : '=' ∉ trimRight value ++ trail := by
    intro member
    rcases List.mem_append.mp member with inside | outside
    · exact right (mem_trimRight inside)
    · exact not_mem_blank trailing equals outside
  rw [cut, readDeclaration, splitAt_break, splitAt_plain before, splitAt_plain after, List.singleton_append]
  simp only [trim_append_left leading, trim_append_right trailing, trim_trimLeft, trim_trimRight]

structure Field (part : Section) (text : List Char) : Prop extends Inline part text where
  trimmed : trim text = text
  unequal : '=' ∉ text

instance (part : Section) (text : List Char) : Decidable (Field part text) :=
  decidable_of_iff (Inline part text ∧ trim text = text ∧ '=' ∉ text)
    ⟨fun ⟨inline, trimmed, unequal⟩ => ⟨inline, trimmed, unequal⟩,
      fun ⟨inline, trimmed, unequal⟩ => ⟨inline, trimmed, unequal⟩⟩

theorem denotes_declaration (name : Field part front) (value : Field part back) :
    Denotes part (fun text number => readDeclaration part.opening number text)
      (declarationLine ⟨Datum.ofChars front, Datum.ofChars back⟩)
      ⟨Datum.ofChars front, Datum.ofChars back⟩ := by
  have line : declarationLine ⟨Datum.ofChars front, Datum.ofChars back⟩ =
      (front ++ [' ']) ++ '=' :: (' ' :: back) := by
    simp [declarationLine]
  rw [line]
  refine ⟨?_, ?_, ?_⟩
  · have left : Inline part (front ++ [' ']) := name.join (by rfl) (by decide) (.nil part)
    have right : Inline part ([] ++ ' ' :: back) := (Inline.nil part).join (by rfl) (by decide) value.toInline
    exact left.join (by rfl) (by decide) right
  · simp [allBlank, show isBlank '=' = false by rfl]
  · intro text number same
    have first : trim (front ++ [' ']) = front := (trim_append_right (by rfl)).trans name.trimmed
    have second : trim ([' '] ++ back) = back := (trim_append_left (by rfl)).trans value.trimmed
    rw [readDeclaration_parts same (by simpa using name.unequal) (by simpa using value.unequal), first,
      ← List.singleton_append, second]

end Triage.Source
