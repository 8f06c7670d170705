import Triage.Proofs.Yaml.Double
import Triage.Proofs.Yaml.Plain
import Triage.Yaml.Node.Reader
import Triage.Yaml.Writer

namespace Triage.Yaml
open Triage.Text

namespace Node

def isName (word : List Char) : Bool := isWord word && isPlain word && isSimpleKey .text word

def pairs (fields : List (List Char × Node)) : List (Node × Node) :=
  fields.map fun (name, value) => (.scalar .text name, value)

def record (fields : List (List Char × Node)) : Node := .map .map (pairs fields)

structure Labelled (fields : List (List Char × Node)) : Prop where
  filled : fields ≠ []
  names : ∀ field ∈ fields, isName field.1 = true

def truth (b : Bool) : Node := .scalar .bool (if b then "true" else "false").toList

-- What may stand in a field whose key starts in the column: texts that fold well there, truth values,
-- records, and lists of records.
inductive Carried : (column : Nat) → Node → Prop
  | text (tame : foldsWell (column + indentWidth) text = true) : Carried column (.scalar .text text)
  | truth (b : Bool) : Carried column (.truth b)
  | record {fields : List (List Char × Node)} (labelled : Labelled fields)
      (values : ∀ field ∈ fields, Carried (column + indentWidth) field.2) : Carried column (.record fields)
  | list {items : List (List (List Char × Node))} (labelled : ∀ item ∈ items, Labelled item)
      (values : ∀ item ∈ items, ∀ field ∈ item, Carried (column + indentWidth) field.2) :
      Carried column (.list .list (items.map .record))

mutual

def tokens : Node → List Token
  | .scalar tag text => [.scalar text (tag ≠ .text || isPlain text)]
  | .list _ [] => [.flowListStart, .flowListEnd]
  | .list _ items => itemTokens items
  | .map _ [] => [.flowMapStart, .flowMapEnd]
  | .map _ fields => .mapStart :: (fieldTokens fields ++ [.blockEnd])
  | .named name node => .anchor name :: tokens node
  | .alias name => [.alias name]

def itemTokens : List Node → List Token
  | [] => []
  | item :: items => .item :: (tokens item ++ itemTokens items)

def fieldTokens : List (Node × Node) → List Token
  | [] => []
  | (key, value) :: fields => .key :: (tokens key ++ .value :: (tokens value ++ fieldTokens fields))

end

theorem isName_parts (name : isName word = true) :
    isWord word = true ∧ isPlain word = true ∧ isSimpleKey .text word = true := by
  rw [isName, Bool.and_eq_true, Bool.and_eq_true] at name
  exact ⟨name.1.1, name.1.2, name.2⟩

theorem isPlain_resolve (plain : isPlain text = true) : resolve text = .text := by
  simp only [isPlain, Bool.and_eq_true, beq_iff_eq] at plain
  exact plain.1.1.1.1.1.1.1

def fieldEnds : List Token := [.key, .value, .blockEnd]

-- Where a value is due, a node of these tokens is read, whatever follows but another item.
structure Builds (node : Node) : Prop where
  starts : ∃ token more, node.tokens = token :: more ∧ fieldEnds.contains token = false
  takes : ∀ fuel rest, rest.head? ≠ some .item → 4 * node.tokens.length ≤ fuel →
    take standardHandles fuel .field ⟨node.tokens ++ rest, []⟩ = .ok (node, ⟨rest, []⟩)

theorem takeOptional_take (handles : Handles) (fuel : Nat) (place : Place) (rest : List Token)
    (names : List (List Char)) (other : ends.contains token = false) :
    takeOptional handles (fuel + 1) place ends ⟨token :: rest, names⟩ =
      take handles fuel place ⟨token :: rest, names⟩ := by
  rw [takeOptional, Reading.isBefore]
  exact if_neg (ne_true_of_eq_false other)

theorem take_scalar (handles : Handles) (fuel : Nat) (place : Place) (text : List Char) (isPlain : Bool)
    (rest : List Token) :
    take handles (fuel + 1) place ⟨.scalar text isPlain :: rest, []⟩ =
      .ok (.scalar (if isPlain then resolve text else .text) text, ⟨rest, []⟩) := by
  cases isPlain <;> rfl

theorem take_map (handles : Handles) (fuel : Nat) (outside : place ≠ .bracket) (rest : List Token)
    (inside : takeFields handles fuel ⟨rest, []⟩ = .ok (fields, after)) :
    take handles (fuel + 1) place ⟨.mapStart :: rest, []⟩ = .ok (.map .map fields, after) := by
  rw [take]
  simp [takeProperties, Reading.name, Reading.next, bind, Except.bind, pure, Except.pure, outside, inside]
  rfl

theorem take_items (handles : Handles) (fuel : Nat) (rest : List Token)
    (inside : takeLooseItems handles fuel ⟨.item :: rest, []⟩ = .ok (items, after)) :
    take handles (fuel + 1) .field ⟨.item :: rest, []⟩ = .ok (.list .list items, after) := by
  rw [take]
  simp [takeProperties, Reading.name, bind, Except.bind, pure, Except.pure, inside]
  rfl

theorem builds_text (text : List Char) : Builds (.scalar .text text) := by
  refine ⟨⟨_, _, rfl, rfl⟩, fun fuel rest _ enough => ?_⟩
  obtain ⟨fuel, rfl⟩ : ∃ less, fuel = less + 1 := ⟨fuel - 1, by simp [tokens] at enough; omega⟩
  have tag : (if isPlain text then resolve text else .text) = .text := by
    split
    · rename_i plain
      exact isPlain_resolve plain
    · rfl
  exact (take_scalar standardHandles fuel .field text (isPlain text) rest).trans (by rw [tag])

theorem builds_truth (b : Bool) : Builds (.truth b) := by
  refine ⟨⟨_, _, rfl, rfl⟩, fun fuel rest _ enough => ?_⟩
  obtain ⟨fuel, rfl⟩ : ∃ less, fuel = less + 1 := ⟨fuel - 1, by simp [tokens, truth] at enough; omega⟩
  cases b <;> rfl

variable {fields : List (List Char × Node)} {items : List (List (List Char × Node))}

theorem takeFields_tokens (rest : List Token)
    (names : ∀ field ∈ fields, isName field.1 = true) (builds : ∀ field ∈ fields, Builds field.2)
    (enough : 4 * (fieldTokens (pairs fields)).length < fuel) :
    takeFields standardHandles fuel ⟨fieldTokens (pairs fields) ++ .blockEnd :: rest, []⟩ =
      .ok (pairs fields, ⟨rest, []⟩) := by
  induction fields generalizing fuel with
  | nil =>
      obtain ⟨fuel, rfl⟩ : ∃ less, fuel = less + 1 := ⟨fuel - 1, by omega⟩
      rfl
  | cons field fields ih =>
      obtain ⟨word, value⟩ := field
      obtain ⟨name, names⟩ := List.forall_mem_cons.mp names
      obtain ⟨build, builds⟩ := List.forall_mem_cons.mp builds
      obtain ⟨token, more, parts, other⟩ := build.starts
      have length : (fieldTokens (pairs ((word, value) :: fields))).length =
          3 + value.tokens.length + (fieldTokens (pairs fields)).length := by
        simp [pairs, fieldTokens, tokens]
        omega
      have filled : 0 < value.tokens.length := by rw [parts]; exact Nat.succ_pos _
      obtain ⟨fuel, rfl⟩ : ∃ less, fuel = less + 4 := ⟨fuel - 4, by omega⟩
      have plain := (isName_parts name).2.1
      have last : ((fieldTokens (pairs fields) ++ .blockEnd :: rest).head? ≠ some .item) := by
        cases fields <;> simp [pairs, fieldTokens]
      have key : ∀ rest, takeOptional standardHandles (fuel + 3) .field fieldEnds ⟨.scalar word true :: rest, []⟩ =
          .ok (.scalar .text word, ⟨rest, []⟩) := by
        intro rest
        rw [takeOptional_take _ _ _ _ _ rfl, take_scalar, if_pos rfl, isPlain_resolve plain]
      have here : takeOptional standardHandles (fuel + 2) .field fieldEnds
          ⟨value.tokens ++ (fieldTokens (pairs fields) ++ .blockEnd :: rest), []⟩ =
            .ok (value, ⟨fieldTokens (pairs fields) ++ .blockEnd :: rest, []⟩) := by
        have taken := build.takes (fuel + 1) _ last (by dsimp only; omega)
        rw [parts] at taken ⊢
        rw [List.cons_append, takeOptional_take _ _ _ _ _ other]
        exact taken
      have later := @ih (fuel + 3) names builds (by omega)
      have whole : fieldTokens (pairs ((word, value) :: fields)) ++ .blockEnd :: rest =
          .key :: .scalar word true :: .value ::
            (value.tokens ++ (fieldTokens (pairs fields) ++ .blockEnd :: rest)) := by
        simp [pairs, fieldTokens, tokens, plain]
      rw [whole, takeFields]
      simp only [fieldEnds, Reading.next, bind, Except.bind, pure, Except.pure] at key here ⊢
      rw [key]
      simp only [takeAfterKey, Reading.next, here, later]
      rfl

theorem tokens_record (filled : fields ≠ []) :
    (record fields).tokens = .mapStart :: (fieldTokens (pairs fields) ++ [.blockEnd]) := by
  obtain ⟨field, others, rfl⟩ := List.exists_cons_of_ne_nil filled
  rfl

theorem take_record (outside : place ≠ .bracket) (rest : List Token) (labelled : Labelled fields)
    (builds : ∀ field ∈ fields, Builds field.2) (enough : 4 * (record fields).tokens.length ≤ fuel) :
    take standardHandles fuel place ⟨(record fields).tokens ++ rest, []⟩ = .ok (record fields, ⟨rest, []⟩) := by
  rw [tokens_record labelled.filled, List.length_cons, List.length_append] at enough
  obtain ⟨fuel, rfl⟩ : ∃ less, fuel = less + 1 := ⟨fuel - 1, by omega⟩
  have inside : takeFields standardHandles fuel _ = _ := takeFields_tokens rest labelled.names builds (by omega)
  rw [tokens_record labelled.filled, List.cons_append, List.append_assoc]
  exact take_map standardHandles fuel outside _ inside

theorem builds_record (labelled : Labelled fields) (builds : ∀ field ∈ fields, Builds field.2) :
    Builds (record fields) :=
  ⟨⟨_, _, tokens_record labelled.filled, rfl⟩,
    fun _ rest _ enough => take_record (by decide) rest labelled builds enough⟩

theorem takeLooseItems_tokens (last : rest.head? ≠ some .item) (labelled : ∀ item ∈ items, Labelled item)
    (builds : ∀ item ∈ items, ∀ field ∈ item, Builds field.2)
    (positive : 0 < fuel) (enough : 4 * (itemTokens (items.map record)).length ≤ fuel + 1) :
    takeLooseItems standardHandles fuel ⟨itemTokens (items.map record) ++ rest, []⟩ =
      .ok (items.map record, ⟨rest, []⟩) := by
  induction items generalizing fuel with
  | nil =>
      obtain ⟨fuel, rfl⟩ : ∃ less, fuel = less + 1 := ⟨fuel - 1, by omega⟩
      cases rest with
      | nil => rfl
      | cons token rest =>
          cases token with
          | item => exact absurd rfl last
          | _ => rfl
  | cons item items ih =>
      obtain ⟨labelledHere, labelled⟩ := List.forall_mem_cons.mp labelled
      obtain ⟨buildsHere, builds⟩ := List.forall_mem_cons.mp builds
      have length : (itemTokens ((item :: items).map record)).length =
          1 + (record item).tokens.length + (itemTokens (items.map record)).length := by
        simp [itemTokens]
        omega
      obtain ⟨fuel, rfl⟩ : ∃ less, fuel = less + 2 := ⟨fuel - 2, by omega⟩
      have here : take standardHandles fuel .block _ = _ :=
        take_record (by decide) (itemTokens (items.map record) ++ rest) labelledHere buildsHere (by omega)
      have later := @ih (fuel + 1) labelled builds (by omega) (by omega)
      have whole : itemTokens ((item :: items).map record) ++ rest =
          .item :: ((record item).tokens ++ (itemTokens (items.map record) ++ rest)) := by
        simp [itemTokens]
      rw [tokens_record labelledHere.filled] at here whole
      rw [whole, takeLooseItems]
      simp only [Reading.next, bind, Except.bind, pure, Except.pure]
      rw [List.cons_append, takeOptional_take _ _ _ _ _ rfl, ← List.cons_append, here]
      simp only [later]
      rfl

theorem builds_list (labelled : ∀ item ∈ items, Labelled item)
    (builds : ∀ item ∈ items, ∀ field ∈ item, Builds field.2) : Builds (.list .list (items.map record)) := by
  cases items with
  | nil =>
      refine ⟨⟨_, _, rfl, rfl⟩, fun fuel rest _ enough => ?_⟩
      obtain ⟨fuel, rfl⟩ : ∃ less, fuel = less + 2 := ⟨fuel - 2, by simp [tokens] at enough; omega⟩
      rfl
  | cons item items =>
      refine ⟨⟨_, _, rfl, rfl⟩, fun fuel rest last enough => ?_⟩
      have enough : 4 * (itemTokens ((item :: items).map record)).length ≤ fuel := enough
      have some : 0 < (itemTokens ((item :: items).map record)).length := Nat.succ_pos _
      obtain ⟨fuel, rfl⟩ : ∃ less, fuel = less + 1 := ⟨fuel - 1, by omega⟩
      exact take_items _ _ _ (takeLooseItems_tokens last labelled builds (by omega) (by omega))

theorem Carried.builds (carried : Carried column node) : Builds node := by
  induction carried with
  | text tame => exact builds_text _
  | truth b => exact builds_truth b
  | record labelled _ ih => exact builds_record labelled ih
  | list labelled _ ih => exact builds_list labelled ih

theorem ofTokens_record (labelled : Labelled fields) (values : ∀ field ∈ fields, Carried column field.2) :
    ofTokens (record fields).tokens = .ok (some (record fields)) := by
  have builds := fun field member => (values field member).builds
  have taken : take standardHandles _ .block _ = _ :=
    take_record (by decide) [] labelled builds (Nat.le_add_right _ 4)
  rw [List.append_nil] at taken
  rw [tokens_record labelled.filled] at taken ⊢
  have read : whole standardHandles (.mapStart :: (fieldTokens (pairs fields) ++ [.blockEnd])) =
      .ok (record fields) := by
    simp only [whole, enough, taken, bind, Except.bind]
    rfl
  exact congrArg (Functor.map some) read

end Node

end Triage.Yaml
