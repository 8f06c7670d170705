import Mathlib.Data.List.Infix
import Triage.Text.Basic
import Triage.Proofs.Text.Scan

namespace Triage.Text

variable {pattern replacement front back text : List Char}

theorem prefix_afterStart? : (afterStart? pattern text).isSome = true ↔ pattern <+: text := by
  rw [Option.isSome_iff_exists]
  constructor
  · intro found
    obtain ⟨rest, found⟩ := found
    exact ⟨rest, (afterStart?_eq_some.mp found).symm⟩
  · intro starts
    obtain ⟨rest, parts⟩ := starts
    exact ⟨rest, afterStart?_eq_some.mpr parts.symm⟩

theorem afterStart?_eq_none : afterStart? pattern text = none ↔ ¬pattern <+: text := by
  rw [← prefix_afterStart?, Bool.not_eq_true, Option.isSome_eq_false_iff, Option.isNone_iff_eq_none]

theorem occurs_iff : occurs pattern text = true ↔ pattern <:+: text := by
  induction text with
  | nil => rw [occurs, List.isEmpty_iff, List.infix_nil]
  | cons c text ih => rw [occurs, Bool.or_eq_true, prefix_afterStart?, ih, List.infix_cons_iff]

theorem prefix_break (foreign : c ∉ pattern) (front : List Char) (starts : pattern <+: front ++ c :: back) :
    pattern <+: front := by
  rcases List.prefix_or_prefix_of_prefix starts (List.prefix_append front (c :: back)) with inside | beyond
  · exact inside
  · obtain ⟨more, rfl⟩ := beyond
    rw [List.prefix_append_right_inj] at starts
    cases more with
    | nil => simp
    | cons first more =>
        obtain ⟨same, _⟩ := List.cons_prefix_cons.mp starts
        subst first
        simp at foreign

-- What holds of the letters of a literal holds of its text. Deciding it on the letters is much faster.
theorem ofLetters {property : List Char → Prop} (letters : List Char) (holds : property letters) :
    property (String.ofList letters).toList := by
  rwa [String.toList_ofList]

-- However the text goes on, the pattern does not start inside it.
def Passes (pattern : List Char) : List Char → Prop
  | [] => True
  | c :: text => ¬pattern <+: c :: text ∧ ¬c :: text <+: pattern ∧ Passes pattern text

instance decidablePasses (pattern : List Char) : ∀ text, Decidable (Passes pattern text)
  | [] => isTrue trivial
  | c :: text =>
      have := decidablePasses pattern text
      inferInstanceAs (Decidable (¬pattern <+: c :: text ∧ ¬c :: text <+: pattern ∧ Passes pattern text))

namespace Passes

theorem start (passes : Passes pattern (c :: text)) (back : List Char) : ¬pattern <+: c :: (text ++ back) := by
  intro starts
  have text := List.prefix_append (c :: text) back
  rcases List.prefix_or_prefix_of_prefix starts text with inside | beyond
  · exact passes.1 inside
  · exact passes.2.1 beyond

theorem append (first : Passes pattern front) (second : Passes pattern back) : Passes pattern (front ++ back) := by
  induction front with
  | nil => exact second
  | cons c front ih =>
      refine ⟨first.start back, ?_, ih first.2.2⟩
      intro beyond
      exact first.2.1 ((List.prefix_append (c :: front) back).trans beyond)

theorem lacking (absent : first ∉ text) : Passes (first :: pattern) text := by
  induction text with
  | nil => trivial
  | cons c text ih =>
      rw [List.mem_cons, not_or] at absent
      refine ⟨?_, ?_, ih absent.2⟩
      · intro starts
        exact absent.1 (List.cons_prefix_cons.mp starts).1
      · intro starts
        exact absent.1 (List.cons_prefix_cons.mp starts).1.symm

theorem longer (passes : Passes stem text) (begins : stem <+: pattern) : Passes pattern text := by
  induction text with
  | nil => trivial
  | cons c text ih =>
      refine ⟨?_, ?_, ih passes.2.2⟩
      · intro starts
        exact passes.1 (begins.trans starts)
      · intro beyond
        rcases List.prefix_or_prefix_of_prefix beyond begins with inside | starts
        · exact passes.2.1 inside
        · exact passes.1 starts

-- A text that nowhere has the first two characters of a pattern, nor the first one at its end.
theorem pairless (absent : ¬[a, b] <:+: text) (last : text.getLast? ≠ some a) : Passes (a :: b :: pattern) text := by
  induction text with
  | nil => trivial
  | cons c text ih =>
      rw [List.infix_cons_iff, not_or] at absent
      refine ⟨?_, ?_, ih absent.2 ?_⟩
      · intro starts
        have pair : [a, b] <+: a :: b :: pattern := ⟨pattern, rfl⟩
        exact absent.1 (pair.trans starts)
      · intro starts
        obtain ⟨rfl, more⟩ := List.cons_prefix_cons.mp starts
        cases text with
        | nil => simp at last
        | cons d text =>
            obtain ⟨rfl, _⟩ := List.cons_prefix_cons.mp more
            exact absent.1 ⟨text, rfl⟩
      · intro atEnd
        apply last
        rw [List.getLast?_cons, atEnd]
        rfl

end Passes

section Replacing

theorem replaceAll_here (filled : pattern ≠ []) (replacement back : List Char) :
    replaceAll pattern replacement (pattern ++ back) = replacement ++ replaceAll pattern replacement back := by
  obtain ⟨first, more, rfl⟩ := List.exists_cons_of_ne_nil filled
  rw [List.cons_append, replaceAll]
  split
  · rename_i rest found
    have same := List.append_cancel_left (afterStart?_eq_some.mp found)
    rw [dif_pos filled, same]
  · rename_i missing
    exact absurd ⟨back, rfl⟩ (afterStart?_eq_none.mp missing)

theorem replaceAll_other (absent : ¬pattern <+: c :: text) (replacement : List Char) :
    replaceAll pattern replacement (c :: text) = c :: replaceAll pattern replacement text := by
  rw [replaceAll]
  split
  · rename_i rest found
    exact absurd ⟨rest, (afterStart?_eq_some.mp found).symm⟩ absent
  · rfl

theorem pattern_induction {motive : List Char → Prop} (filled : pattern ≠ []) (nil : motive [])
    (here : ∀ text, motive text → motive (pattern ++ text))
    (other : ∀ c text, ¬pattern <+: c :: text → motive text → motive (c :: text)) (text : List Char) :
    motive text := by
  have letters := List.length_pos_iff.mpr filled
  induction length : text.length using Nat.strong_induction_on generalizing text with
  | _ n ih =>
    cases text with
    | nil => exact nil
    | cons c text =>
        by_cases starts : pattern <+: c :: text
        · obtain ⟨rest, parts⟩ := starts
          rw [← parts, List.length_append] at length
          rw [← parts]
          exact here rest (ih rest.length (by omega) rest rfl)
        · rw [List.length_cons] at length
          exact other c text starts (ih text.length (by omega) text rfl)

theorem replaceAll_passes (passes : Passes pattern front) (replacement back : List Char) :
    replaceAll pattern replacement (front ++ back) = front ++ replaceAll pattern replacement back := by
  induction front with
  | nil => rfl
  | cons c front ih => rw [List.cons_append, replaceAll_other (passes.start back), ih passes.2.2, List.cons_append]

theorem replaceAll_absent (absent : ¬pattern <:+: text) (replacement : List Char) :
    replaceAll pattern replacement text = text := by
  induction text with
  | nil => rw [replaceAll]
  | cons c text ih =>
      rw [List.infix_cons_iff, not_or] at absent
      rw [replaceAll_other absent.1, ih absent.2]

theorem replaceAll_break (filled : pattern ≠ []) (foreign : c ∉ pattern) (replacement front back : List Char) :
    replaceAll pattern replacement (front ++ c :: back) =
      replaceAll pattern replacement front ++ c :: replaceAll pattern replacement back := by
  induction front using pattern_induction filled with
  | nil =>
    have absent : ¬pattern <+: c :: back := by
      intro starts
      exact filled (List.prefix_nil.mp (prefix_break foreign [] starts))
    rw [List.nil_append, replaceAll_other absent, replaceAll, List.nil_append]
  | here text ih =>
    rw [List.append_assoc, replaceAll_here filled, ih, replaceAll_here filled, List.append_assoc]
  | other first text absent ih =>
    have still : ¬pattern <+: first :: (text ++ c :: back) := by
      intro starts
      exact absent (prefix_break foreign (first :: text) starts)
    rw [List.cons_append, replaceAll_other still, ih, replaceAll_other absent, List.cons_append]

theorem replaceAll_fence (filled : pattern ≠ []) (fence : back.head? = some c) (foreign : c ∉ pattern)
    (replacement front : List Char) : replaceAll pattern replacement (front ++ back) =
      replaceAll pattern replacement front ++ replaceAll pattern replacement back := by
  obtain ⟨more, rfl⟩ := List.head?_eq_some_iff.mp fence
  have behind := replaceAll_break filled foreign replacement [] more
  rw [List.nil_append, replaceAll, List.nil_append] at behind
  rw [replaceAll_break filled foreign, behind]

theorem replaceAll_first (filled : pattern ≠ []) (stands : pattern <:+: text) (replacement : List Char) :
    ∃ front back, text = front ++ pattern ++ back ∧
      replaceAll pattern replacement text = front ++ replacement ++ replaceAll pattern replacement back := by
  induction text with
  | nil => exact absurd (List.infix_nil.mp stands) filled
  | cons c text ih =>
      by_cases starts : pattern <+: c :: text
      · obtain ⟨rest, parts⟩ := starts
        exact ⟨[], rest, parts.symm, by rw [← parts, replaceAll_here filled, List.nil_append]⟩
      · have later := (List.infix_cons_iff.mp stands).resolve_left starts
        obtain ⟨front, back, parts, replaced⟩ := ih later
        refine ⟨c :: front, back, by rw [parts]; rfl, ?_⟩
        rw [replaceAll_other starts, replaced]
        rfl

end Replacing

section Pairs

theorem pair_append {a b : Char} : [a, b] <:+: front ++ back ↔
    [a, b] <:+: front ∨ [a, b] <:+: back ∨ front.getLast? = some a ∧ back.head? = some b := by
  induction front with
  | nil => simp
  | cons c front ih =>
      rw [List.cons_append, List.infix_cons_iff, ih, List.infix_cons_iff]
      cases front with
      | nil =>
          cases back with
          | nil => simp [List.cons_prefix_cons]
          | cons d back => simp [List.cons_prefix_cons, eq_comm (a := a), eq_comm (a := b), or_comm]
      | cons d front =>
          rw [List.cons_append, List.cons_prefix_cons, List.cons_prefix_cons, List.cons_prefix_cons,
            List.cons_prefix_cons, List.getLast?_cons_cons]
          simp only [List.nil_prefix, and_true, or_assoc]

theorem pair_starts {a b : Char} : [a, b] <+: c :: text ↔ c = a ∧ text.head? = some b := by
  rw [List.cons_prefix_cons, eq_comm]
  cases text with
  | nil => simp
  | cons d text => simp [eq_comm]

theorem pair_map {a b : Char} {write : Char → Char} (first : ∀ c, write c = a → c = a)
    (second : ∀ c, write c = b → c = b) (stands : [a, b] <:+: text.map write) : [a, b] <:+: text := by
  induction text with
  | nil => exact stands
  | cons c text ih =>
      rw [List.map_cons, List.infix_cons_iff, pair_starts] at stands
      rw [List.infix_cons_iff, pair_starts]
      rcases stands with ⟨here, next⟩ | later
      · rw [List.head?_map, Option.map_eq_some_iff] at next
        obtain ⟨d, head, same⟩ := next
        exact .inl ⟨first c here, by rw [head, second d same]⟩
      · exact .inr (ih later)

theorem replaceAll_head (filled : pattern ≠ []) (some : replacement ≠ []) (text : List Char) :
    (replaceAll pattern replacement text).head? = text.head? ∨
      (replaceAll pattern replacement text).head? = replacement.head? := by
  induction text using pattern_induction filled with
  | nil => exact .inl (by rw [replaceAll])
  | here text _ =>
      rw [replaceAll_here filled]
      exact .inr (List.head?_append_of_ne_nil _ some)
  | other c text absent _ =>
      rw [replaceAll_other absent]
      exact .inl rfl

-- Replacing leaves no pair where every pair in the text starts a pattern and what is put in neither
-- holds one nor makes one with what stands around it.
theorem pair_replaceAll {a b : Char} (filled : pattern ≠ []) (inner : ¬[a, b] <:+: replacement)
    (first : ∃ c more, replacement = c :: more ∧ c ≠ b) (last : replacement.getLast? ≠ some a)
    (covered : ∀ rest, rest <:+ text → [a, b] <+: rest → pattern <+: rest) :
    ¬[a, b] <:+: replaceAll pattern replacement text := by
  obtain ⟨d, more, rfl, unlike⟩ := first
  induction text using pattern_induction filled with
  | nil =>
      rw [replaceAll]
      simp
  | here text ih =>
      have later := ih fun rest suffix => covered rest (suffix.trans (List.suffix_append pattern text))
      rw [replaceAll_here filled, pair_append]
      rintro (within | behind | ⟨atEnd, _⟩)
      · exact inner within
      · exact later behind
      · exact last atEnd
  | other c text absent ih =>
      have later := ih fun rest suffix => covered rest (suffix.trans (List.suffix_cons c text))
      rw [replaceAll_other absent, List.infix_cons_iff, not_or]
      refine ⟨?_, later⟩
      intro starts
      obtain ⟨rfl, next⟩ := pair_starts.mp starts
      rcases replaceAll_head filled (List.cons_ne_nil d more) text with kept | new
      · rw [kept] at next
        exact absent (covered (c :: text) (List.suffix_refl _) (pair_starts.mpr ⟨rfl, next⟩))
      · rw [new] at next
        exact unlike (Option.some.inj next)

end Pairs

section Cutting

def cut? (pattern text : List Char) : Option (List Char × List Char) :=
  firstHit (fun _ _ => ()) (fun _ text => afterStart? pattern text) () text

theorem Passes.missed (passes : Passes pattern front) (back : List Char) (earlier : List Char) (c : Char)
    (more : List Char) (parts : front = earlier ++ c :: more) : afterStart? pattern (c :: more ++ back) = none := by
  induction earlier generalizing front with
  | nil =>
      subst front
      exact afterStart?_eq_none.mpr (passes.start back)
  | cons first earlier ih =>
      subst front
      exact ih passes.2.2 rfl

theorem cut?_first (filled : pattern ≠ []) (passes : Passes pattern front) (back : List Char) :
    cut? pattern (front ++ (pattern ++ back)) = some (front, back) := by
  have here : firstHit (fun _ _ => ()) (fun _ text => afterStart? pattern text) () (pattern ++ back) =
      some ([], back) := firstHit_here (afterStart?_eq_some.mpr rfl) (by simp [filled])
  rw [cut?, firstHit_append (passes.missed (pattern ++ back)), here, Option.map_some]
  simp only [List.append_nil]

def between (opening closing : List Char) : List Char → List (List Char)
  | [] => []
  | c :: text =>
      match (afterStart? opening (c :: text)).bind (cut? closing) with
      | some (inside, _) => inside :: between opening closing text
      | none => between opening closing text

variable {opening closing inside : List Char}

theorem between_passes (passes : Passes opening front) (closing back : List Char) :
    between opening closing (front ++ back) = between opening closing back := by
  induction front with
  | nil => rfl
  | cons c front ih =>
      have missing := afterStart?_eq_none.mpr (passes.start back)
      rw [List.cons_append, between, missing, Option.bind_none]
      exact ih passes.2.2

theorem between_found (opens : opening ≠ []) (closes : closing ≠ []) (apart : Passes opening opening.tail)
    (unopened : Passes opening inside) (unclosed : Passes closing inside) (back : List Char) :
    between opening closing (opening ++ (inside ++ (closing ++ back))) =
      inside :: between opening closing (closing ++ back) := by
  obtain ⟨c, more, rfl⟩ := List.exists_cons_of_ne_nil opens
  have starts : afterStart? (c :: more) (c :: (more ++ (inside ++ (closing ++ back)))) =
      some (inside ++ (closing ++ back)) := afterStart?_eq_some.mpr rfl
  rw [List.cons_append, between, starts, Option.bind_some, cut?_first closes unclosed]
  have inner := between_passes apart closing (inside ++ (closing ++ back))
  rw [List.tail_cons, between_passes unopened] at inner
  exact congrArg (inside :: ·) inner

theorem between_none (passes : Passes opening text) (closing : List Char) : between opening closing text = [] := by
  have whole := between_passes passes closing []
  rw [List.append_nil] at whole
  rw [whole, between]

theorem between_part (opens : opening ≠ []) (closes : closing ≠ []) (apart : Passes opening opening.tail)
    (before : Passes opening front) (unopened : Passes opening inside) (unclosed : Passes closing inside)
    (after : Passes opening (closing ++ tail)) (back : List Char) :
    between opening closing (front ++ (opening ++ (inside ++ (closing ++ (tail ++ back))))) =
      inside :: between opening closing back := by
  rw [between_passes before, between_found opens closes apart unopened unclosed, ← List.append_assoc,
    between_passes after]

end Cutting

section Counting

def places (pattern : List Char) : List Char → Nat
  | [] => 0
  | c :: text => (if pattern <+: c :: text then 1 else 0) + places pattern text

theorem places_passes (passes : Passes pattern front) (back : List Char) :
    places pattern (front ++ back) = places pattern back := by
  induction front with
  | nil => rfl
  | cons c front ih =>
      rw [List.cons_append, places, if_neg (passes.start back), Nat.zero_add]
      exact ih passes.2.2

end Counting

end Triage.Text
