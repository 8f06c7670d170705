import Triage.Proofs.Text.Scan
import Triage.Proofs.Text.Trim

namespace Triage.Text

def endsWord (text : List Char) : Bool := opensWord text.reverse

structure Whole (text before word after : List Char) : Prop where
  parts : text = before ++ word ++ after
  opens : endsWord before = false
  closes : opensWord after = false

structure Lettered (word : List Char) : Prop where
  letters : word.all isWord = true
  filled : word ≠ []

instance (word : List Char) : Decidable (Lettered word) :=
  decidable_of_iff (word.all isWord = true ∧ word ≠ [])
    ⟨fun ⟨letters, filled⟩ => ⟨letters, filled⟩, fun ⟨letters, filled⟩ => ⟨letters, filled⟩⟩

def HasWord (word text : List Char) : Prop := ∃ before after, Whole text before word after

theorem opensWord_append (filled : front ≠ []) : opensWord (front ++ back) = opensWord front := by
  cases front with
  | nil => exact absurd rfl filled
  | cons c front => rfl

theorem endsWord_append (filled : back ≠ []) : endsWord (front ++ back) = endsWord back := by
  rw [endsWord, List.reverse_append, opensWord_append (by simpa using filled), endsWord]

theorem endsWord_singleton (c : Char) : endsWord [c] = isWord c := rfl

theorem foldl_isWord (text : List Char) : text.foldl (fun _ c => isWord c) false = endsWord text := by
  rcases List.eq_nil_or_concat text with rfl | ⟨front, c, rfl⟩
  · rfl
  · simp [endsWord_append, endsWord_singleton]

def blankCodes : List Nat :=
  List.range' 0x9 5 ++ List.range' 0x1C 5 ++ List.range' 0x2000 11 ++
    [0x85, 0xA0, 0x1680, 0x2028, 0x2029, 0x202F, 0x205F, 0x3000]

theorem blankCodes_complete (blank : isBlank c = true) : c.toNat ∈ blankCodes := by
  simp only [isBlank, Bool.or_eq_true, Bool.and_eq_true, decide_eq_true_eq, beq_iff_eq] at blank
  simp only [blankCodes, List.mem_append, List.mem_range'_1, List.mem_cons, List.not_mem_nil, or_false]
  omega

theorem isWord_blank (blank : isBlank c = true) : isWord c = false := by
  have apart : ∀ code ∈ blankCodes, isWord (Char.ofNat code) = false := by decide +kernel
  have here := apart c.toNat (blankCodes_complete blank)
  rwa [Char.ofNat_toNat] at here

theorem isWord_newline : isWord '\n' = false := isWord_blank (by rfl)

theorem isBlank_word (letter : isWord c = true) : isBlank c = false := by
  cases blank : isBlank c with
  | false => rfl
  | true =>
      rw [isWord_blank blank] at letter
      cases letter

theorem opensWord_blank (blank : allBlank text = true) : opensWord text = false := by
  cases text with
  | nil => rfl
  | cons c text =>
      simp only [allBlank, List.all_cons, Bool.and_eq_true] at blank
      exact isWord_blank blank.1

theorem endsWord_blank (blank : allBlank text = true) : endsWord text = false :=
  opensWord_blank (by simpa [allBlank] using blank)

theorem Lettered.letter (lettered : Lettered word) (member : c ∈ word) : isWord c = true :=
  List.all_eq_true.mp lettered.letters c member

theorem Lettered.solid (lettered : Lettered word) (member : c ∈ word) : isBlank c = false :=
  isBlank_word (lettered.letter member)

theorem Lettered.reverse (lettered : Lettered word) : Lettered word.reverse :=
  ⟨by simpa using lettered.letters, by simpa using lettered.filled⟩

theorem opensWord_word (lettered : Lettered word) : opensWord (word ++ text) = true := by
  cases word with
  | nil => exact absurd rfl lettered.filled
  | cons c word => exact lettered.letter (by simp)

theorem endsWord_word (lettered : Lettered word) : endsWord (text ++ word) = true := by
  have opens : opensWord (word.reverse ++ []) = true := opensWord_word lettered.reverse
  rwa [List.append_nil, ← endsWord, ← endsWord_append lettered.filled] at opens

theorem endsWord_trimLeft (ends : endsWord text = false) : endsWord (trimLeft text) = false := by
  obtain ⟨lead, _, parts⟩ := trimLeft_parts text
  by_cases empty : trimLeft text = []
  · rw [empty]
    rfl
  · rwa [parts, endsWord_append empty] at ends

theorem opensWord_trimRight (opens : opensWord text = false) : opensWord (trimRight text) = false := by
  obtain ⟨trail, _, parts⟩ := trimRight_parts text
  by_cases empty : trimRight text = []
  · rw [empty]
    rfl
  · rwa [parts, opensWord_append empty] at opens

namespace Whole

theorem extend (whole : Whole text before word after) (opens : endsWord lead = false)
    (closes : opensWord trail = false) : Whole (lead ++ text ++ trail) (lead ++ before) word (after ++ trail) := by
  refine ⟨by simp [whole.parts], ?_, ?_⟩
  · by_cases empty : before = []
    · rwa [empty, List.append_nil]
    · rw [endsWord_append empty]
      exact whole.opens
  · by_cases empty : after = []
    · rwa [empty, List.nil_append]
    · rw [opensWord_append empty]
      exact whole.closes

-- A text put between others keeps its whole words where no word runs over a seam.
theorem embed (whole : Whole text before word after) (lettered : Lettered word)
    (first : endsWord lead = false ∨ opensWord text = false)
    (second : endsWord text = false ∨ opensWord trail = false) :
    Whole (lead ++ text ++ trail) (lead ++ before) word (after ++ trail) := by
  refine ⟨by simp [whole.parts], ?_, ?_⟩
  · by_cases empty : before = []
    · rcases first with first | first
      · rwa [empty, List.append_nil]
      · -- The text would open with the word itself.
        rw [whole.parts, empty, List.nil_append, opensWord_word lettered] at first
        cases first
    · rw [endsWord_append empty]
      exact whole.opens
  · by_cases empty : after = []
    · rcases second with second | second
      · rw [whole.parts, empty, List.append_nil, endsWord_word lettered] at second
        cases second
      · rwa [empty, List.nil_append]
    · rw [opensWord_append empty]
      exact whole.closes

theorem inner (whole : Whole text (lead ++ before) word (after ++ trail)) :
    Whole (before ++ word ++ after) before word after := by
  refine ⟨rfl, ?_, ?_⟩
  · by_cases empty : before = []
    · rw [empty]
      rfl
    · rw [← endsWord_append empty]
      exact whole.opens
  · by_cases empty : after = []
    · rw [empty]
      rfl
    · rw [← opensWord_append empty]
      exact whole.closes

theorem split (whole : Whole (left ++ right) before word after) (lettered : Lettered word)
    (seam : endsWord left = false ∨ opensWord right = false) :
    (∃ rest, Whole left before word rest ∧ after = rest ++ right) ∨
      ∃ rest, Whole right rest word after ∧ before = left ++ rest := by
  obtain ⟨parts, opens, closes⟩ := whole
  have inLeft : ∀ rest, left = before ++ word ++ rest → after = rest ++ right →
      ∃ rest, Whole left before word rest ∧ after = rest ++ right := by
    intro rest cut tail
    refine ⟨rest, ⟨cut, opens, ?_⟩, tail⟩
    by_cases empty : rest = []
    · rw [empty]; rfl
    · rw [← opensWord_append empty, ← tail]
      exact closes
  have inRight : ∀ rest, right = rest ++ word ++ after → before = left ++ rest →
      ∃ rest, Whole right rest word after ∧ before = left ++ rest := by
    intro rest cut head
    refine ⟨rest, ⟨cut, ?_, closes⟩, head⟩
    by_cases empty : rest = []
    · rw [empty]; rfl
    · rw [← endsWord_append empty, ← head]
      exact opens
  rcases List.append_eq_append_iff.mp parts with ⟨middle, ahead, tail⟩ | ⟨middle, cut, tail⟩
  · rcases List.append_eq_append_iff.mp ahead with ⟨first, cut, wordParts⟩ | ⟨rest, head, cut⟩
    · -- The seam cuts the word in two, and one of its halves must be empty.
      subst wordParts
      by_cases none : first = []
      · subst none
        exact Or.inr (inRight [] (by simpa using tail) (by simpa using cut.symm))
      · by_cases all : middle = []
        · subst all
          exact Or.inl (inLeft [] (by simpa using cut) (by simpa using tail.symm))
        · have letters : first.all isWord = true ∧ middle.all isWord = true := by simpa using lettered.letters
          rcases seam with seam | seam
          · rw [cut, endsWord_word ⟨letters.1, none⟩] at seam
            cases seam
          · rw [tail, opensWord_word ⟨letters.2, all⟩] at seam
            cases seam
    · exact Or.inr (inRight rest (by rw [tail, cut]) head)
  · exact Or.inl (inLeft middle cut tail)

end Whole

theorem hasWord_append_break (apart : isWord c = false) (lettered : Lettered word) :
    HasWord word (left ++ c :: right) ↔ HasWord word left ∨ HasWord word right := by
  have opens : opensWord (c :: right) = false := apart
  have closes : endsWord (left ++ [c]) = false := by rwa [endsWord_append (by simp), endsWord_singleton]
  constructor
  · rintro ⟨before, after, whole⟩
    rcases whole.split lettered (Or.inr opens) with ⟨rest, inside, _⟩ | ⟨rest, inside, _⟩
    · exact Or.inl ⟨before, rest, inside⟩
    · have whole : Whole ([c] ++ right) rest word after := inside
      rcases whole.split lettered (Or.inl apart) with ⟨front, alone, _⟩ | ⟨front, later, _⟩
      · -- The single character would have to be the word itself.
        have member : c ∈ word := by
          have parts := alone.parts
          cases word with
          | nil => exact absurd rfl lettered.filled
          | cons first word =>
              cases rest <;> simp_all
        have letter := lettered.letter member
        rw [apart] at letter
        cases letter
      · exact Or.inr ⟨front, after, later⟩
  · rintro (⟨before, after, whole⟩ | ⟨before, after, whole⟩)
    · have wider := whole.extend (show endsWord [] = false from rfl) opens
      exact ⟨_, _, by simpa using wider⟩
    · have wider := whole.extend closes (show opensWord [] = false from rfl)
      exact ⟨_, _, by simpa using wider⟩

theorem hasWord_word (letters : text.all isWord = true) (has : HasWord word text) : word = text := by
  obtain ⟨before, after, parts, opens, closes⟩ := has
  rw [parts, List.all_append, List.all_append, Bool.and_eq_true, Bool.and_eq_true] at letters
  have first : before = [] := by
    by_contra filled
    have ends : endsWord ([] ++ before) = true := endsWord_word ⟨letters.1.1, filled⟩
    rw [List.nil_append, opens] at ends
    cases ends
  have last : after = [] := by
    by_contra filled
    have starts : opensWord (after ++ []) = true := opensWord_word ⟨letters.2, filled⟩
    rw [List.append_nil, closes] at starts
    cases starts
  rw [parts, first, last, List.nil_append, List.append_nil]

theorem not_hasWord_nil (filled : word ≠ []) : ¬HasWord word [] := fun has => filled (hasWord_word rfl has)

theorem HasWord.first (has : HasWord word text) (lettered : Lettered word) :
    ∃ before after, Whole text before word after ∧ ¬HasWord word before := by
  obtain ⟨before, after, whole⟩ := has
  induction length : before.length using Nat.strong_induction_on generalizing before after with
  | _ size ih =>
    by_cases again : HasWord word before
    · obtain ⟨front, back, inside⟩ := again
      have wide : Whole ([] ++ before ++ (word ++ after)) ([] ++ front) word (back ++ (word ++ after)) :=
        inside.embed lettered (Or.inl rfl) (Or.inl whole.opens)
      rw [List.nil_append, ← List.append_assoc, ← whole.parts] at wide
      have shorter : front.length < size := by
        have sizes := congrArg List.length inside.parts
        have letters := List.length_pos_iff.mpr lettered.filled
        simp only [List.length_append] at sizes
        omega
      exact ih front.length shorter front _ wide rfl
    · exact ⟨before, after, whole, again⟩

theorem hasWord_cons_break (apart : isWord c = false) (lettered : Lettered word) :
    HasWord word (c :: text) ↔ HasWord word text := by
  have parts := @hasWord_append_break c word [] text apart lettered
  rwa [List.nil_append, or_iff_right (not_hasWord_nil lettered.filled)] at parts

theorem hasWord_append_left (blank : allBlank lead = true) (lettered : Lettered word) :
    HasWord word (lead ++ text) ↔ HasWord word text := by
  induction lead with
  | nil => rfl
  | cons c lead ih =>
      have parts : isBlank c = true ∧ allBlank lead = true := by simpa [allBlank] using blank
      rw [List.cons_append, hasWord_cons_break (isWord_blank parts.1) lettered, ih parts.2]

theorem cutWord?_eq_firstHit (word : List Char) (inside : Bool) (text : List Char) :
    cutWord? word inside text = firstHit (fun _ c => isWord c) (wholeWord? word) inside text := by
  induction text generalizing inside with
  | nil => rfl
  | cons c text ih =>
      simp only [cutWord?, firstHit, ih]
      cases wholeWord? word inside (c :: text) <;> rfl

theorem cutWord?_eq_none (filled : word ≠ []) : cutWord? word false text = none ↔ ¬HasWord word text := by
  rw [cutWord?_eq_firstHit, firstHit_eq_none]
  constructor
  · rintro missed ⟨before, after, parts, opens, closes⟩
    obtain ⟨first, letters, rfl⟩ := List.exists_cons_of_ne_nil filled
    have nothing := missed before first (letters ++ after) (by simpa using parts)
    rw [foldl_isWord, opens] at nothing
    have found : wholeWord? (first :: letters) false (first :: (letters ++ after)) = some after :=
      wholeWord?_eq_some.mpr ⟨rfl, rfl, closes⟩
    rw [found] at nothing
    cases nothing
  · intro absent front c back parts
    rw [foldl_isWord]
    cases found : wholeWord? word (endsWord front) (c :: back) with
    | none => rfl
    | some rest =>
        obtain ⟨opens, cut, closes⟩ := wholeWord?_eq_some.mp found
        exact absurd ⟨front, rest, by rw [parts, cut, List.append_assoc], opens, closes⟩ absent

theorem wholeWord?_break (opens : opensWord text = false) (lettered : Lettered word) :
    wholeWord? word inside text = none := by
  cases found : wholeWord? word inside text with
  | none => rfl
  | some rest =>
      have starts : opensWord (word ++ rest) = true := opensWord_word lettered
      rw [← (wholeWord?_eq_some.mp found).2.1, opens] at starts
      cases starts

-- A word character right before a text makes no difference where the text itself opens no word.
theorem cutWord?_inside (opens : opensWord text = false) (lettered : Lettered word) :
    cutWord? word true text = cutWord? word false text := by
  cases text with
  | nil => rfl
  | cons c text => simp only [cutWord?, wholeWord?_break opens lettered]

theorem cutWord?_first (absent : ¬HasWord word before) (opens : endsWord before = false)
    (closes : opensWord after = false) (lettered : Lettered word) :
    cutWord? word false (before ++ (word ++ after)) = some (before, after) := by
  have missed : ∀ earlier c more, before = earlier ++ c :: more →
      wholeWord? word (earlier.foldl (fun _ c => isWord c) false) (c :: more ++ (word ++ after)) = none := by
    intro earlier c more parts
    rw [foldl_isWord]
    cases found : wholeWord? word (endsWord earlier) (c :: more ++ (word ++ after)) with
    | none => rfl
    | some rest =>
        obtain ⟨apart, cut, ends⟩ := wholeWord?_eq_some.mp found
        have whole : Whole (before ++ (word ++ after)) earlier word rest :=
          ⟨by rw [parts, List.append_assoc, cut, List.append_assoc], apart, ends⟩
        rcases whole.split lettered (Or.inl opens) with ⟨tail, inside, _⟩ | ⟨tail, _, beyond⟩
        · exact absurd ⟨earlier, tail, inside⟩ absent
        · have sizes := congrArg List.length (parts.trans (congrArg (· ++ c :: more) beyond))
          simp only [List.length_append, List.length_cons] at sizes
          omega
  have here : wholeWord? word (before.foldl (fun _ c => isWord c) false) (word ++ after) = some after := by
    rw [foldl_isWord]
    exact wholeWord?_eq_some.mpr ⟨opens, rfl, closes⟩
  rw [cutWord?_eq_firstHit, firstHit_append missed, firstHit_here here (by simp [lettered.filled])]
  simp

end Triage.Text
