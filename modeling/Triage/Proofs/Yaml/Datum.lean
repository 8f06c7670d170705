import Triage.Proofs.Datum.Names
import Triage.Proofs.Yaml.Tokens
import Triage.Yaml.Reader

namespace Triage.Yaml

namespace Node

def ofPlain (d : Datum) : Node := (ofShared [] [] d).1

-- A datum in which nothing is shared, as a node that is read as the datum.
structure Mirrors (d : Datum) : Prop where
  unshared : ∀ w : Walk, w.through d = w
  written : ∀ repeated written, ofShared repeated written d = (ofPlain d, written)
  read : (ofPlain d).datum? = some d

theorem mirrors_text (s : String) : Mirrors (.text s) := by
  refine ⟨fun _ => rfl, fun _ _ => rfl, ?_⟩
  simp [ofPlain, ofShared, datum?, plainScalar?, scalarDatum, Datum.ofChars]

theorem mirrors_bool (b : Bool) : Mirrors (.bool b) := by
  refine ⟨fun _ => rfl, fun _ _ => rfl, ?_⟩
  cases b <;> decide

section
variable {fields : List (String × Datum)}

def worded (fields : List (String × Datum)) : List (List Char × Node) :=
  fields.map fun (name, value) => (name.toList, ofPlain value)

theorem ofFields_worded (repeated written : List Nat) (each : ∀ field ∈ fields, Mirrors field.2) :
    ofFields repeated written (fields.map fun (name, value) => (.text name, value)) =
      (pairs (worded fields), written) := by
  induction fields with
  | nil => rfl
  | cons field fields ih =>
      obtain ⟨here, later⟩ := List.forall_mem_cons.mp each
      simp [ofFields, ofShared, here.written, ih later, pairs, worded]

theorem ofPlain_record (each : ∀ field ∈ fields, Mirrors field.2) :
    ofPlain (.record fields) = record (worded fields) := by
  rw [ofPlain, Datum.record, ofShared, ofFields_worded [] [] each]
  rfl

theorem throughFields_worded (w : Walk) (each : ∀ field ∈ fields, Mirrors field.2) :
    w.throughFields (fields.map fun (name, value) => (.text name, value)) = w := by
  induction fields with
  | nil => rfl
  | cons field fields ih =>
      obtain ⟨here, later⟩ := List.forall_mem_cons.mp each
      have key : w.through (.text field.1) = w := rfl
      rw [List.map_cons, Walk.throughFields, key, here.unshared, ih later]

theorem fieldData?_worded (each : ∀ field ∈ fields, Mirrors field.2) :
    fieldData? (pairs (worded fields)) = some (fields.map fun (name, value) => (.text name, value)) := by
  induction fields with
  | nil => rfl
  | cons field fields ih =>
      obtain ⟨name, value⟩ := field
      obtain ⟨here, later⟩ := List.forall_mem_cons.mp each
      have key : datum? (.scalar .text name.toList) = some (.text name) := (mirrors_text name).read
      have first : pairs (worded ((name, value) :: fields)) =
          (.scalar .text name.toList, ofPlain value) :: pairs (worded fields) := rfl
      have isKey : (Datum.text name).isKey = true := rfl
      rw [first, fieldData?, key, ih later, here.read]
      simp [isKey]

theorem mirrors_record (distinct : (fields.map Prod.fst).Nodup) (each : ∀ field ∈ fields, Mirrors field.2) :
    Mirrors (.record fields) := by
  refine ⟨fun w => ?_, fun repeated written => ?_, ?_⟩
  · rw [Datum.record, Walk.through, throughFields_worded w each]
  · rw [ofPlain_record each, Datum.record, ofShared, ofFields_worded repeated written each]
    rfl
  · have texts : ∀ field ∈ fields.map fun (name, value) => (Datum.text name, value), field.1.isText = true := by
      rintro _ member
      obtain ⟨field, _, rfl⟩ := List.mem_map.mp member
      rfl
    have different : ((fields.map fun (name, value) => (Datum.text name, value)).map Prod.fst).Nodup := by
      have same : (fields.map fun (name, value) => (Datum.text name, value)).map Prod.fst =
          (fields.map Prod.fst).map Datum.text := by simp
      rw [same]
      exact List.Pairwise.map Datum.text (fun _ _ other same => other (Datum.text.inj same)) distinct
    have gathered := @Datum.foldl_setField _ [] _ texts different
    rw [ofPlain_record each, record, datum?, fieldData?_worded each]
    simp only [objectOf, gathered, Option.map_eq_map, Option.map_some]
    rfl

end

theorem ofItems_plain (repeated written : List Nat) (each : ∀ item ∈ items, Mirrors item) :
    ofItems repeated written items = (items.map ofPlain, written) := by
  induction items with
  | nil => rfl
  | cons item items ih =>
      obtain ⟨here, later⟩ := List.forall_mem_cons.mp each
      simp [ofItems, here.written, ih later]

theorem ofPlain_list (each : ∀ item ∈ items, Mirrors item) :
    ofPlain (.list items) = .list .list (items.map ofPlain) := by
  rw [ofPlain, ofShared, ofItems_plain [] [] each]

theorem mirrors_list (each : ∀ item ∈ items, Mirrors item) : Mirrors (.list items) := by
  refine ⟨fun w => ?_, fun repeated written => ?_, ?_⟩
  · rw [Walk.through]
    induction items with
    | nil => rfl
    | cons item items ih =>
        obtain ⟨here, later⟩ := List.forall_mem_cons.mp each
        rw [Walk.throughItems, here.unshared, ih later]
  · rw [ofPlain_list each, ofShared, ofItems_plain repeated written each]
  · have read : itemData? (items.map ofPlain) = some items := by
      induction items with
      | nil => rfl
      | cons item items ih =>
          obtain ⟨here, later⟩ := List.forall_mem_cons.mp each
          simp [itemData?, here.read, ih later]
    rw [ofPlain_list each, datum?, read]
    rfl

structure Kept (column : Nat) (d : Datum) : Prop where
  mirrors : Mirrors d
  carried : Carried column (ofPlain d)

def areNames (names : List String) : Bool :=
  !names.isEmpty && names.all (fun name => isName name.toList) && decide names.Nodup

theorem kept_text (s : String) (tame : foldsWell (column + indentWidth) s.toList = true) : Kept column (.text s) :=
  ⟨mirrors_text s, .text tame⟩

theorem kept_word (s : String) (tame : escapeMeetsSpace s.toList.tail = false) : Kept column (.text s) :=
  kept_text s (by rw [foldsWell, breaksWell, tame, Bool.not_false, Bool.or_true, Bool.or_true])

theorem kept_bool (column : Nat) (b : Bool) : Kept column (.bool b) := ⟨mirrors_bool b, .truth b⟩

structure KeptFields (column : Nat) (fields : List (String × Datum)) : Prop where
  names : areNames (fields.map Prod.fst) = true
  kept : ∀ field ∈ fields, Kept column field.2

section
variable {fields : List (String × Datum)}

theorem KeptFields.mirrors (known : KeptFields column fields) : Mirrors (.record fields) := by
  have names := known.names
  rw [areNames, Bool.and_eq_true, decide_eq_true_iff] at names
  exact mirrors_record names.2 fun field member => (known.kept field member).mirrors

theorem KeptFields.worded (known : KeptFields column fields) : ofPlain (.record fields) = record (worded fields) :=
  ofPlain_record fun field member => (known.kept field member).mirrors

theorem KeptFields.labelled (known : KeptFields column fields) : Labelled (Node.worded fields) := by
  have names := known.names
  simp only [areNames, Bool.and_eq_true, List.all_eq_true] at names
  obtain ⟨⟨filled, words⟩, _⟩ := names
  refine ⟨by simpa [Node.worded] using filled, fun field member => ?_⟩
  obtain ⟨field, inFields, rfl⟩ := List.mem_map.mp member
  exact words field.1 (List.mem_map_of_mem inFields)

theorem KeptFields.carried (known : KeptFields column fields) :
    ∀ field ∈ Node.worded fields, Carried column field.2 := by
  intro field member
  obtain ⟨field, inFields, rfl⟩ := List.mem_map.mp member
  exact (known.kept field inFields).carried

end

theorem kept_record (known : KeptFields (column + indentWidth) fields) : Kept column (.record fields) := by
  refine ⟨known.mirrors, ?_⟩
  rw [known.worded]
  exact .record known.labelled known.carried

theorem kept_list {items : List (List (String × Datum))}
    (known : ∀ item ∈ items, KeptFields (column + indentWidth) item) :
    Kept column (.list (items.map .record)) := by
  have mirrors : ∀ item ∈ items.map Datum.record, Mirrors item := by
    intro item member
    obtain ⟨fields, inItems, rfl⟩ := List.mem_map.mp member
    exact (known fields inItems).mirrors
  have nodes : (items.map Datum.record).map ofPlain = (items.map worded).map record := by
    rw [List.map_map, List.map_map]
    exact List.map_congr_left fun fields member => (known fields member).worded
  refine ⟨mirrors_list mirrors, ?_⟩
  rw [ofPlain_list mirrors, nodes]
  refine .list ?_ ?_
  · intro item member
    obtain ⟨fields, inItems, rfl⟩ := List.mem_map.mp member
    exact (known fields inItems).labelled
  · intro item member
    obtain ⟨fields, inItems, rfl⟩ := List.mem_map.mp member
    exact (known fields inItems).carried

end Node

open Node

theorem read_writeDocument (known : KeptFields 0 fields) : read (render (.record fields)) = .ok (.record fields) := by
  have node : Node.ofDatum (.record fields) = .record (worded fields) := by
    rw [Node.ofDatum, known.mirrors.unshared]
    exact known.worded
  have tokens := tokensOf_record known.labelled known.carried
  have built := ofTokens_record known.labelled known.carried
  have datum : (Node.record (worded fields)).datum? = some (.record fields) := by
    rw [← known.worded]
    exact known.mirrors.read
  rw [read, render, node, tokens]
  simp only [bind, Except.bind, built, Node.toDatum, datum]

end Triage.Yaml
