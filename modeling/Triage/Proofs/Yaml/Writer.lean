import Triage.Proofs.Yaml.Node

namespace Triage.Yaml
open Triage.Text

theorem writePlain_whole (indent column : Nat) (afterSpace : Bool) (text : List Char) :
    writePlain false indent column afterSpace text = text := by
  induction text generalizing column afterSpace with
  | nil => rfl
  | cons c text ih =>
      rw [writePlain]
      simp [ih]

theorem writeFields_pairs (name : Node.isName word = true) (column : Nat) (value : Node)
    (fields : List (List Char × Node)) : writeFields column (Node.pairs ((word, value) :: fields)) =
      (word ++ ':' :: writeAfter true false column (column + word.length + 2) value) ::
        writeFields column (Node.pairs fields) := by
  obtain ⟨_, plain, simple⟩ := Node.isName_parts name
  have written : simpleKey? column (.scalar .text word) = some word := by
    simp [simpleKey?, simple, writeScalar, writeText, Style.ofText, plain, writePlain_whole]
  simp [Node.pairs, writeFields, written]

theorem writeAfter_item (filled : fields ≠ []) (column start : Nat) :
    writeAfter false true column start (.record fields) =
      ' ' :: joinLines (column + indentWidth) (writeFields (column + indentWidth) (Node.pairs fields)) := by
  obtain ⟨field, others, rfl⟩ := List.exists_cons_of_ne_nil filled
  rfl

theorem writeAfter_record (filled : fields ≠ []) (column start : Nat) :
    writeAfter true false column start (.record fields) = newLine (column + indentWidth) ++
      joinLines (column + indentWidth) (writeFields (column + indentWidth) (Node.pairs fields)) := by
  obtain ⟨field, others, rfl⟩ := List.exists_cons_of_ne_nil filled
  rfl

theorem writeAfter_list (some : items ≠ []) (column start : Nat) :
    writeAfter true false column start (.list .list (items.map .record)) =
      newLine column ++ joinLines column (writeItems column (items.map .record)) := by
  obtain ⟨item, others, rfl⟩ := List.exists_cons_of_ne_nil some
  rfl

theorem joinLines_first (column : Nat) (line : List Char) (lines : List (List Char)) :
    ∃ behind, joinLines column (line :: lines) = line ++ behind := by
  cases lines with
  | nil => exact ⟨[], (List.append_nil line).symm⟩
  | cons next lines => exact ⟨_, List.append_assoc ..⟩

def isOrdinary (c : Char) : Bool := !isSpecial c

theorem isOrdinary_visible (visible : 0x20 ≤ c.toNat ∧ c.toNat ≤ 0x7E) : isOrdinary c = true := by
  simp [isOrdinary, isSpecial, visible]

theorem ordinary_visible (ordinary : isOrdinary c = true) : c = '\n' ∨ (0x20 ≤ c.toNat ∧ c.toNat ≤ 0x7E) := by
  simpa [isOrdinary, isSpecial] using ordinary

theorem ordinary_isAllowed (ordinary : isOrdinary c = true) : isAllowed c = true := by
  rcases ordinary_visible ordinary with rfl | visible
  · rfl
  · simp [isAllowed, visible]

theorem spaces_ordinary (count : Nat) : (List.replicate count ' ').all isOrdinary = true := by
  have space : isOrdinary ' ' = true := rfl
  simp [space]

theorem newLine_ordinary (indent : Nat) : (newLine indent).all isOrdinary = true := by
  rw [newLine, List.all_cons, spaces_ordinary]
  rfl

theorem writePlain_ordinary (folds : Bool) (indent column : Nat) (afterSpace : Bool)
    (ordinary : text.all isOrdinary = true) :
    (writePlain folds indent column afterSpace text).all isOrdinary = true := by
  induction text generalizing column afterSpace with
  | nil => rfl
  | cons c text ih =>
      rw [List.all_cons, Bool.and_eq_true] at ordinary
      rw [writePlain]
      split
      · rw [List.all_append, newLine_ordinary, ih _ _ ordinary.2]
        rfl
      · rw [List.all_cons, ordinary.1, ih _ _ ordinary.2]
        rfl

theorem writeSingle_ordinary (folds : Bool) (indent column : Nat) (first afterSpace afterBreak : Bool)
    (ordinary : text.all isOrdinary = true) :
    (writeSingle folds indent column first afterSpace afterBreak text).all isOrdinary = true := by
  have lead : (if afterBreak then List.replicate indent ' ' else []).all isOrdinary = true := by
    cases afterBreak with
    | false => rfl
    | true => exact spaces_ordinary indent
  induction text generalizing column first afterSpace afterBreak with
  | nil => exact lead
  | cons c text ih =>
      rw [List.all_cons, Bool.and_eq_true] at ordinary
      have onLine := fun column afterSpace => ih column false afterSpace false ordinary.2 rfl
      rw [writeSingle]
      split
      · rw [List.all_append, ih 0 false false true ordinary.2 (spaces_ordinary indent)]
        cases afterBreak <;> rfl
      · dsimp only
        generalize (if afterBreak = true then List.replicate indent ' ' else []) = lead at lead ⊢
        generalize (if afterBreak = true then indent else column) = column
        split
        · simp only [List.all_append, lead, newLine_ordinary, onLine, Bool.and_self]
        · split
          · simp only [List.all_append, List.all_cons, lead, onLine, Bool.and_true, Bool.true_and]
            rfl
          · simp only [List.all_append, List.all_cons, lead, onLine, ordinary.1, Bool.and_self]

theorem hex_ordinary (width n : Nat) : (hex .upper width n).all isOrdinary = true := by
  have digit : ∀ n < 16, isOrdinary (hexDigit .upper n) = true := by decide
  induction width generalizing n with
  | zero => rfl
  | succ width ih => simp [hex, ih, digit (n % 16) (Nat.mod_lt n (by decide))]

theorem escape?_ordinary (escaped : escape? c = some written) : written.all isOrdinary = true := by
  have letters : ∀ entry ∈ letterEscapes, isOrdinary entry.2 = true := by decide
  rw [escape?] at escaped
  split at escaped
  · cases escaped
  · split at escaped
    · rename_i found
      cases escaped
      have letter := letters _ (List.mem_of_find?_eq_some found)
      simp only [List.all_cons, List.all_nil, letter]
      rfl
    · split at escaped
      · cases escaped
        simp only [List.all_cons, hex_ordinary]
        rfl
      · split at escaped <;>
          · cases escaped
            simp only [List.all_cons, hex_ordinary]
            rfl

theorem escapedBreak_ordinary (indent : Nat) (text : List Char) : (escapedBreak indent text).all isOrdinary = true := by
  have lineBreak := newLine_ordinary indent
  unfold escapedBreak
  split <;>
    · rw [List.cons_append, List.all_cons, List.all_append, lineBreak]
      rfl

theorem writeDouble_ordinary (folds : Bool) (indent column : Nat) (first afterEscape : Bool) (text : List Char) :
    (writeDouble folds indent column first afterEscape text).all isOrdinary = true := by
  induction text generalizing column first afterEscape with
  | nil => rfl
  | cons c text ih =>
      have step := writeDouble_step folds indent column first afterEscape c text
      generalize writeDouble folds indent column first afterEscape (c :: text) = written at step
      cases step with
      | escape escaped => simp only [List.all_append, escape?_ordinary escaped, ih, Bool.and_self]
      | escapeBreak escaped =>
          simp only [List.all_append, escape?_ordinary escaped, escapedBreak_ordinary, ih, Bool.and_self]
      | plain plain =>
          simp only [List.all_cons, isOrdinary_visible (escape?_none plain).1, ih, Bool.and_self]
      | breakPlain plain =>
          simp only [List.all_append, List.all_cons, escapedBreak_ordinary, isOrdinary_visible (escape?_none plain).1,
            ih, Bool.and_self]

theorem all_isOrdinary (text : List Char) : text.all isOrdinary = !text.any isSpecial := List.not_any_eq_all_not.symm

theorem writeText_ordinary (folds : Bool) (indent column : Nat) (text : List Char) :
    (writeText folds indent column text).all isOrdinary = true := by
  rw [writeText, Style.ofText]
  by_cases plain : isPlain text = true
  · rw [if_pos plain]
    simp only [isPlain, Bool.and_eq_true, ← all_isOrdinary] at plain
    exact writePlain_ordinary _ _ _ _ plain.1.1.1.1.1.1.2
  · rw [if_neg plain]
    by_cases single : isSingle text = true
    · rw [if_pos single]
      rw [isSingle, Bool.and_eq_true, ← all_isOrdinary] at single
      simp only [List.cons_append, List.all_cons, List.all_append, writeSingle_ordinary _ _ _ _ _ _ single.1]
      rfl
    · rw [if_neg single]
      simp only [List.cons_append, List.all_cons, List.all_append, writeDouble_ordinary]
      rfl

theorem joinLines_ordinary (indent : Nat) {lines : List (List Char)}
    (each : ∀ line ∈ lines, line.all isOrdinary = true) :
    (joinLines indent lines).all isOrdinary = true := by
  induction lines with
  | nil => rfl
  | cons line lines ih =>
      obtain ⟨here, later⟩ := List.forall_mem_cons.mp each
      cases lines with
      | nil => exact here
      | cons next lines =>
          have parts : joinLines indent (line :: next :: lines) =
              line ++ newLine indent ++ joinLines indent (next :: lines) := rfl
          rw [parts, List.all_append, List.all_append, here, newLine_ordinary, ih later]
          rfl

section
variable {fields : List (List Char × Node)} {items : List (List (List Char × Node))}

theorem fields_ordinary (column : Nat)
    (names : ∀ field ∈ fields, Node.isName field.1 = true)
    (values : ∀ field ∈ fields, ∀ start, (writeAfter true false column start field.2).all isOrdinary = true) :
    (joinLines column (writeFields column (Node.pairs fields))).all isOrdinary = true := by
  refine joinLines_ordinary column ?_
  induction fields with
  | nil => exact List.forall_mem_nil _
  | cons field fields ih =>
      obtain ⟨word, value⟩ := field
      obtain ⟨name, names⟩ := List.forall_mem_cons.mp names
      obtain ⟨here, later⟩ := List.forall_mem_cons.mp values
      rw [writeFields_pairs name]
      refine List.forall_mem_cons.mpr ⟨?_, ih names later⟩
      have word : word.all isOrdinary = true := by
        rw [List.all_eq_true]
        exact fun c member => isOrdinary_visible ((isPlain_bare (Node.isName_parts name).2.1).tail.visible c member)
      rw [List.all_append, List.all_cons, word, here]
      rfl

theorem items_ordinary (column : Nat) (labelled : ∀ item ∈ items, Node.Labelled item)
    (values : ∀ item ∈ items, ∀ field ∈ item, ∀ start,
      (writeAfter true false (column + indentWidth) start field.2).all isOrdinary = true) :
    ∀ line ∈ writeItems column (items.map .record), line.all isOrdinary = true := by
  induction items with
  | nil => exact List.forall_mem_nil _
  | cons item items ih =>
      obtain ⟨labelledHere, labelled⟩ := List.forall_mem_cons.mp labelled
      obtain ⟨here, values⟩ := List.forall_mem_cons.mp values
      rw [List.map_cons, writeItems, writeAfter_item labelledHere.filled]
      refine List.forall_mem_cons.mpr ⟨?_, ih labelled values⟩
      rw [List.all_cons, List.all_cons, fields_ordinary _ labelledHere.names here]
      rfl

theorem Node.Carried.ordinary (carried : Node.Carried column node) (start : Nat) :
    (writeAfter true false column start node).all isOrdinary = true := by
  induction carried generalizing start with
  | text tame =>
      simp only [writeAfter, writeScalar, if_true, List.all_cons, writeText_ordinary]
      rfl
  | truth b => cases b <;> rfl
  | record labelled _ ih =>
      rw [writeAfter_record labelled.filled, List.all_append, newLine_ordinary, fields_ordinary _ labelled.names ih]
      rfl
  | @list column items labelled _ ih =>
      by_cases some : items = []
      · subst some
        rfl
      · rw [writeAfter_list some, List.all_append, newLine_ordinary, Bool.true_and]
        exact joinLines_ordinary column (items_ordinary column labelled ih)

end

end Triage.Yaml
