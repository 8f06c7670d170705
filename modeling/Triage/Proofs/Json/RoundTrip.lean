import Triage.Exchange
import Triage.Proofs.Document
import Triage.Proofs.Json.Number
import Triage.Proofs.Json.Text
import Triage.Proofs.Program.Data

namespace Triage

namespace Datum

mutual

def inJson : Datum → Bool
  | .null | .bool _ | .int _ | .text _ => true
  | .list items => inJsonItems items
  | .object fields => inJsonFields fields && decide (fields.map Prod.fst).Nodup
  | _ => false

def inJsonItems : List Datum → Bool
  | [] => true
  | item :: items => inJson item && inJsonItems items

def inJsonFields : List (Datum × Datum) → Bool
  | [] => true
  | (key, value) :: fields => key.isText && inJson value && inJsonFields fields

end

theorem inJsonItems_iff : inJsonItems items = true ↔ ∀ item ∈ items, item.inJson = true := by
  induction items with
  | nil => simp [inJsonItems]
  | cons item items ih => simp [inJsonItems, ih]

theorem inJsonFields_iff {fields : List (Datum × Datum)} :
    inJsonFields fields = true ↔ ∀ field ∈ fields, field.1.isText = true ∧ field.2.inJson = true := by
  induction fields with
  | nil => simp [inJsonFields]
  | cons field fields ih => simp [inJsonFields, ih]

theorem writableItems_iff : writableItems items = true ↔ ∀ item ∈ items, item.writable = true := by
  induction items with
  | nil => simp [writableItems]
  | cons item items ih => simp [writableItems, ih]

theorem writableFields_iff {fields : List (Datum × Datum)} :
    writableFields fields = true ↔ ∀ field ∈ fields, field.1.writable = true ∧ field.2.writable = true := by
  induction fields with
  | nil => simp [writableFields]
  | cons field fields ih => simp [writableFields, ih]

theorem inJson_induction {motive : Datum → Prop} (null : motive .null) (bool : ∀ b, motive (.bool b))
    (int : ∀ n, fitsLimit n = true → motive (.int n)) (text : ∀ s, motive (.text s))
    (list : ∀ items, (∀ item ∈ items, item.inJson = true) → (∀ item ∈ items, motive item) → motive (.list items))
    (object : ∀ fields, (∀ field ∈ fields, field.1.isText = true ∧ field.2.inJson = true) →
      (fields.map Prod.fst).Nodup → (∀ field ∈ fields, motive field.2) → motive (.object fields))
    (d : Datum) (known : d.inJson = true) (fits : d.writable = true) : motive d := by
  cases form : d with
  | null => exact null
  | bool b => exact bool b
  | int n =>
      rw [form, writable] at fits
      exact int n fits
  | text s => exact text s
  | list items =>
      rw [form, inJson, inJsonItems_iff] at known
      rw [form, writable, writableItems_iff] at fits
      exact list items known fun item member =>
        inJson_induction null bool int text list object item (known item member) (fits item member)
  | object fields =>
      rw [form, inJson, Bool.and_eq_true, inJsonFields_iff, decide_eq_true_iff] at known
      rw [form, writable, writableFields_iff] at fits
      exact object fields known.1 known.2 fun field member =>
        inJson_induction null bool int text list object field.2 (known.1 field member).2 (fits field member).2
  | real | pair | shared | again =>
      rw [form] at known
      cases known
termination_by sizeOf d
decreasing_by
  · have smaller := List.sizeOf_lt_of_mem member
    simp only [form, Datum.list.sizeOf_spec]
    omega
  · have smaller := List.sizeOf_lt_of_mem member
    obtain ⟨key, value⟩ := field
    simp only [Prod.mk.sizeOf_spec] at smaller
    simp only [form, Datum.object.sizeOf_spec]
    omega

theorem composed_inJson : Composed inJson := by
  refine ⟨fun _ => rfl, fun _ => rfl, fun items each => ?_, fun fields distinct each => ?_⟩
  · rw [inJson, inJsonItems_iff]
    exact each
  · rw [record, inJson, Bool.and_eq_true, inJsonFields_iff, decide_eq_true_iff]
    refine ⟨fun field inList => ?_, record_keys distinct⟩
    obtain ⟨given, member, rfl⟩ := List.mem_map.mp inList
    exact ⟨rfl, each given member⟩

theorem composed_writable : Composed writable := by
  refine ⟨fun _ => rfl, fun _ => rfl, fun items each => ?_, fun fields _ each => ?_⟩
  · rw [writable, writableItems_iff]
    exact each
  · rw [record, writable, writableFields_iff]
    intro field inList
    obtain ⟨given, member, rfl⟩ := List.mem_map.mp inList
    exact ⟨rfl, each given member⟩

end Datum

namespace Json
open Triage.Text

def Closing (rest : List Char) : Prop :=
  ∀ c more, rest = c :: more → c = ',' ∨ c = '\n' ∨ c = ']' ∨ c = '\x7d'

theorem Closing.endsNumber (closing : Closing rest) : EndsNumber rest := by
  intro c more parts
  rcases closing c more parts with rfl | rfl | rfl | rfl <;> decide

theorem closing_nil : Closing [] := by
  intro c more parts
  cases parts

theorem closing_comma (rest : List Char) : Closing (',' :: rest) := by
  intro c more parts
  cases parts
  exact .inl rfl

theorem closing_lineBreak (layout : Layout) (last : c = ']' ∨ c = '\x7d') (rest : List Char) :
    Closing (layout.lineBreak ++ c :: rest) := by
  intro first more parts
  cases layout with
  | compact =>
      cases parts
      exact .inr (.inr last)
  | indented depth =>
      cases parts
      exact .inr (.inl rfl)

def Solid (text : List Char) : Prop := ∀ c more, text = c :: more → isSpace c = false

theorem skipSpace_solid (solid : Solid text) : skipSpace text = text := by
  cases text with
  | nil => rfl
  | cons c more => simp [skipSpace, solid c more rfl]

theorem mem_lineBreak {layout : Layout} (member : c ∈ layout.lineBreak) : c = '\n' ∨ c = ' ' := by
  cases layout with
  | compact => cases member
  | indented depth =>
      rw [Layout.lineBreak, List.mem_cons, List.mem_replicate] at member
      exact member.imp_right And.right

theorem skipSpace_lineBreak (layout : Layout) (solid : Solid text) : skipSpace (layout.lineBreak ++ text) = text := by
  have blank : ∀ c ∈ layout.lineBreak, isSpace c = true := by
    intro c member
    rcases mem_lineBreak member with rfl | rfl <;> rfl
  rw [skipSpace, List.dropWhile_append_of_pos blank]
  exact skipSpace_solid solid

theorem skipSpace_colon (layout : Layout) (solid : Solid text) :
    ∃ rest, layout.colon ++ text = ':' :: rest ∧ skipSpace rest = text := by
  cases layout with
  | compact => exact ⟨text, rfl, skipSpace_solid solid⟩
  | indented depth => exact ⟨' ' :: text, rfl, skipSpace_solid solid⟩

-- What a written value starts with: neither a blank, nor the end of a list, nor the mark of a text's
-- byte order.
structure Opens (c : Char) : Prop where
  solid : isSpace c = false
  value : c ≠ ']'
  unmarked : c ≠ '\ufeff'

theorem write_first (layout : Layout) (known : d.inJson = true) : ∃ c more, write layout d = c :: more ∧ Opens c := by
  have bracket : ∀ {opening closing} {items : List (List Char)}, Opens opening →
      ∃ c more, enclosed layout opening closing items = c :: more ∧ Opens c := by
    intro opening closing items opens
    cases items with
    | nil => exact ⟨opening, _, rfl, opens⟩
    | cons item items => exact ⟨opening, _, rfl, opens⟩
  cases d with
  | null => exact ⟨'n', _, rfl, by decide, by decide, by decide⟩
  | bool b => cases b <;> exact ⟨_, _, rfl, by decide, by decide, by decide⟩
  | int n =>
      obtain ⟨c, more, parts, first⟩ := Datum.integerText_first n
      refine ⟨c, more, by rw [write, parts], ?_⟩
      rcases first with digit | ⟨rfl, _⟩
      · refine ⟨?_, ?_, ?_⟩
        · cases blank : isSpace c with
          | false => rfl
          | true =>
              simp only [isSpace, Bool.or_eq_true, decide_eq_true_eq, or_assoc] at blank
              rcases blank with rfl | rfl | rfl | rfl <;> cases digit
        all_goals
          rintro rfl
          cases digit
      · exact ⟨by decide, by decide, by decide⟩
  | text s => exact ⟨'"', _, rfl, by decide, by decide, by decide⟩
  | list items => exact bracket ⟨by decide, by decide, by decide⟩
  | object fields => exact bracket ⟨by decide, by decide, by decide⟩
  | real x => cases known
  | pair first second => cases known
  | shared mark content => cases known
  | again mark => cases known

-- A datum that is read back wherever it is written.
def ReadsBack (layout : Layout) (d : Datum) : Prop :=
  ∀ fuel rest, 2 * (write layout d).length < fuel → Closing rest →
    readValue fuel (write layout d ++ rest) = .ok (d, rest)

def listed (layout : Layout) : List (List Char) → List Char
  | [] => []
  | [item] => item
  | item :: next :: items => item ++ ',' :: (layout.lineBreak ++ listed layout (next :: items))

theorem enclosed_listed (layout : Layout) (opening closing : Char) (filled : items ≠ []) :
    enclosed layout opening closing items =
      opening :: (layout.inner.lineBreak ++ listed layout.inner items ++ layout.lineBreak ++ [closing]) := by
  have between : ∀ item others, listed layout.inner (item :: others) =
      item ++ others.flatMap fun next => ',' :: layout.inner.lineBreak ++ next := by
    intro item others
    induction others generalizing item with
    | nil => simp [listed]
    | cons next others ih => simp [listed, ih]
  obtain ⟨item, others, rfl⟩ := List.exists_cons_of_ne_nil filled
  simp [enclosed, between]

theorem writeItems_map (layout : Layout) (items : List Datum) : writeItems layout items = items.map (write layout) := by
  induction items with
  | nil => rfl
  | cons item items ih => rw [writeItems, ih, List.map_cons]

def writeField (layout : Layout) (field : Datum × Datum) : List Char :=
  writeText (keyText field.1) ++ layout.colon ++ write layout field.2

theorem writeFields_map (layout : Layout) (fields : List (Datum × Datum)) :
    writeFields layout fields = fields.map (writeField layout) := by
  induction fields with
  | nil => rfl
  | cons field fields ih => rw [writeFields, ih, List.map_cons, writeField]

theorem listed_first (layout : Layout) (known : ∀ item ∈ items, item.inJson = true) (filled : items ≠ []) :
    ∃ c more, listed layout (items.map (write layout)) = c :: more ∧ Opens c := by
  obtain ⟨item, others, rfl⟩ := List.exists_cons_of_ne_nil filled
  obtain ⟨c, more, parts, opens⟩ := write_first layout (List.forall_mem_cons.mp known).1
  cases others with
  | nil => exact ⟨c, more, parts, opens⟩
  | cons next others => exact ⟨c, _, by rw [List.map_cons, List.map_cons, listed, parts]; rfl, opens⟩

theorem readItems_listed {inner : Layout} (outer : Layout) (rest : List Char)
    (known : ∀ item ∈ items, item.inJson = true) (each : ∀ item ∈ items, ReadsBack inner item) (filled : items ≠ [])
    (enough : 2 * (listed inner (items.map (write inner))).length + 2 ≤ fuel) :
    readItems fuel (listed inner (items.map (write inner)) ++ (outer.lineBreak ++ ']' :: rest)) = .ok (items, rest) := by
  induction items generalizing fuel with
  | nil => exact absurd rfl filled
  | cons item items ih =>
      obtain ⟨fuel, rfl⟩ : ∃ less, fuel = less + 1 := ⟨fuel - 1, by omega⟩
      obtain ⟨_, knownLater⟩ := List.forall_mem_cons.mp known
      obtain ⟨here, later⟩ := List.forall_mem_cons.mp each
      cases items with
      | nil =>
          have value := here fuel (outer.lineBreak ++ ']' :: rest) (by simp [listed] at enough; omega)
            (closing_lineBreak outer (.inl rfl) rest)
          have ends : skipSpace (outer.lineBreak ++ ']' :: rest) = ']' :: rest :=
            skipSpace_lineBreak outer (by rintro c more ⟨⟩; rfl)
          rw [List.map_singleton, listed, readItems, value]
          simp only [bind, Except.bind, ends]
          rfl
      | cons next items =>
          obtain ⟨c, more, first, opens⟩ := listed_first inner knownLater (by simp)
          have others := @ih fuel knownLater later (by simp) (by simp [listed] at enough ⊢; omega)
          have parts : listed inner ((item :: next :: items).map (write inner)) ++ (outer.lineBreak ++ ']' :: rest) =
              write inner item ++ ',' :: (inner.lineBreak ++
                (listed inner ((next :: items).map (write inner)) ++ (outer.lineBreak ++ ']' :: rest))) := by
            simp [listed]
          rw [first] at others parts
          have value := here fuel _ (by simp [listed] at enough; omega) (closing_comma (inner.lineBreak ++
            (c :: more ++ (outer.lineBreak ++ ']' :: rest))))
          have comma : ∀ rest, skipSpace (',' :: rest) = ',' :: rest :=
            fun rest => skipSpace_solid (by rintro c more ⟨⟩; rfl)
          have starts : skipSpace (inner.lineBreak ++ (c :: more ++ (outer.lineBreak ++ ']' :: rest))) =
              c :: more ++ (outer.lineBreak ++ ']' :: rest) :=
            skipSpace_lineBreak inner (by rintro c more ⟨⟩; exact opens.solid)
          rw [parts, readItems, value]
          simp only [bind, Except.bind, comma, starts, others]
          rfl

theorem writeField_text (layout : Layout) (name : String) (value : Datum) (rest : List Char) :
    writeField layout (.text name, value) ++ rest =
      '"' :: (name.toList.flatMap escapedChar ++ '"' :: (layout.colon ++ (write layout value ++ rest))) := by
  simp [writeField, writeText, keyText, Datum.display]

theorem readFields_field {inner : Layout} (name : String) (value : Datum) (known : value.inJson = true)
    (here : ReadsBack inner value) (enough : 2 * (write inner value).length < fuel) (closing : Closing rest) :
    readFields (fuel + 1) (writeField inner (.text name, value) ++ rest) =
      match skipSpace rest with
      | '\x7d' :: rest => .ok ([(.text name, value)], rest)
      | ',' :: rest => do
          let (fields, rest) ← readFields fuel (skipSpace rest)
          return ((.text name, value) :: fields, rest)
      | rest => .error ⟨.expectingComma, rest.length⟩ := by
  obtain ⟨c, more, first, opens⟩ := write_first inner known
  obtain ⟨after, colon, starts⟩ : ∃ after, inner.colon ++ (write inner value ++ rest) = ':' :: after ∧
      skipSpace after = write inner value ++ rest :=
    skipSpace_colon inner (by rw [first]; rintro c more ⟨⟩; exact opens.solid)
  have mark : skipSpace (':' :: after) = ':' :: after := rfl
  rw [writeField_text, readFields, readText_escaped, colon]
  simp only [bind, Except.bind, mark, starts, here fuel rest enough closing, Datum.ofChars, String.ofList_toList]
  rfl

theorem readFields_listed {inner : Layout} (outer : Layout) (rest : List Char) {fields : List (Datum × Datum)}
    (known : ∀ field ∈ fields, field.1.isText = true ∧ field.2.inJson = true)
    (each : ∀ field ∈ fields, ReadsBack inner field.2) (filled : fields ≠ [])
    (enough : 2 * (listed inner (fields.map (writeField inner))).length + 2 ≤ fuel) :
    readFields fuel (listed inner (fields.map (writeField inner)) ++ (outer.lineBreak ++ '\x7d' :: rest)) =
      .ok (fields, rest) := by
  induction fields generalizing fuel with
  | nil => exact absurd rfl filled
  | cons field fields ih =>
      obtain ⟨fuel, rfl⟩ : ∃ less, fuel = less + 1 := ⟨fuel - 1, by omega⟩
      obtain ⟨key, value⟩ := field
      obtain ⟨⟨text, knownHere⟩, knownLater⟩ := List.forall_mem_cons.mp known
      obtain ⟨here, later⟩ := List.forall_mem_cons.mp each
      obtain ⟨name, rfl⟩ := Datum.exists_text text
      cases fields with
      | nil =>
          have ends : skipSpace (outer.lineBreak ++ '\x7d' :: rest) = '\x7d' :: rest :=
            skipSpace_lineBreak outer (by rintro c more ⟨⟩; rfl)
          rw [List.map_singleton, listed, readFields_field name value knownHere here
            (by simp [listed, writeField] at enough; omega) (closing_lineBreak outer (.inr rfl) rest), ends]
          rfl
      | cons next fields =>
          have others := @ih fuel knownLater later (by simp) (by simp [listed] at enough ⊢; omega)
          obtain ⟨more, first⟩ : ∃ more, listed inner ((next :: fields).map (writeField inner)) = '"' :: more := by
            cases fields with
            | nil => exact ⟨_, rfl⟩
            | cons third fields => exact ⟨_, rfl⟩
          have parts : listed inner (((.text name, value) :: next :: fields).map (writeField inner)) ++
                (outer.lineBreak ++ '\x7d' :: rest) =
              writeField inner (.text name, value) ++ ',' :: (inner.lineBreak ++
                (listed inner ((next :: fields).map (writeField inner)) ++ (outer.lineBreak ++ '\x7d' :: rest))) := by
            simp [listed]
          rw [first] at others parts
          have comma : ∀ rest, skipSpace (',' :: rest) = ',' :: rest :=
            fun rest => skipSpace_solid (by rintro c more ⟨⟩; rfl)
          have starts : skipSpace (inner.lineBreak ++ ('"' :: more ++ (outer.lineBreak ++ '\x7d' :: rest))) =
              '"' :: more ++ (outer.lineBreak ++ '\x7d' :: rest) :=
            skipSpace_lineBreak inner (by rintro c more ⟨⟩; rfl)
          rw [parts, readFields_field name value knownHere here (by simp [listed, writeField] at enough; omega)
            (closing_comma _)]
          simp only [bind, Except.bind, comma, starts, others]
          rfl

theorem readsBack_int (layout : Layout) (fits : Datum.fitsLimit n = true) : ReadsBack layout (.int n) := by
  intro fuel rest enough closing
  obtain ⟨fuel, rfl⟩ : ∃ less, fuel = less + 1 := ⟨fuel - 1, by omega⟩
  obtain ⟨c, more, parts, first⟩ := Datum.integerText_first n
  have word := readLiteral?_integerText n rest
  have number := readNumber_integerText fits closing.endsNumber
  have bare : c ≠ '"' ∧ c ≠ '[' ∧ c ≠ '\x7b' := by
    rcases first with digit | ⟨rfl, _⟩
    · refine ⟨?_, ?_, ?_⟩ <;> (rintro rfl; cases digit)
    · decide
  rw [write]
  rw [parts, List.cons_append] at word number ⊢
  simp [readValue, bare, word, number]

theorem readsBack_text (layout : Layout) (s : String) : ReadsBack layout (.text s) := by
  intro fuel rest enough _
  obtain ⟨fuel, rfl⟩ : ∃ less, fuel = less + 1 := ⟨fuel - 1, by omega⟩
  have parts : write layout (.text s) ++ rest = '"' :: (s.toList.flatMap escapedChar ++ '"' :: rest) := by
    simp [write, writeText]
  rw [parts, readValue, readText_escaped]
  simp only [bind, Except.bind, Datum.ofChars, String.ofList_toList]
  rfl

theorem readsBack_list (layout : Layout) (known : ∀ item ∈ items, item.inJson = true)
    (each : ∀ item ∈ items, ReadsBack layout.inner item) : ReadsBack layout (.list items) := by
  intro fuel rest enough _
  obtain ⟨fuel, rfl⟩ : ∃ less, fuel = less + 1 := ⟨fuel - 1, by omega⟩
  by_cases empty : items = []
  · subst empty
    rfl
  · obtain ⟨c, more, first, opens⟩ := listed_first layout.inner known empty
    have written : write layout (.list items) = '[' :: (layout.inner.lineBreak ++
        listed layout.inner (items.map (write layout.inner)) ++ layout.lineBreak ++ [']']) := by
      rw [write, writeItems_map, enclosed_listed layout '[' ']' (by simpa using empty)]
    rw [written] at enough
    have inside : readItems fuel _ = .ok (items, rest) :=
      readItems_listed layout rest known each empty (by simp at enough; omega)
    have starts : skipSpace (layout.inner.lineBreak ++ (c :: more ++ (layout.lineBreak ++ ']' :: rest))) =
        c :: more ++ (layout.lineBreak ++ ']' :: rest) :=
      skipSpace_lineBreak layout.inner (by rintro c more ⟨⟩; exact opens.solid)
    have parts : write layout (.list items) ++ rest =
        '[' :: (layout.inner.lineBreak ++ (c :: more ++ (layout.lineBreak ++ ']' :: rest))) := by
      simp [written, first]
    rw [first] at inside
    rw [List.cons_append] at starts inside parts
    rw [parts]
    simp [readValue, starts, opens.value, inside, bind, Except.bind]
    rfl

theorem readsBack_object (layout : Layout) {fields : List (Datum × Datum)}
    (known : ∀ field ∈ fields, field.1.isText = true ∧ field.2.inJson = true)
    (distinct : (fields.map Prod.fst).Nodup) (each : ∀ field ∈ fields, ReadsBack layout.inner field.2) :
    ReadsBack layout (.object fields) := by
  intro fuel rest enough _
  obtain ⟨fuel, rfl⟩ : ∃ less, fuel = less + 1 := ⟨fuel - 1, by omega⟩
  by_cases empty : fields = []
  · subst empty
    rfl
  · obtain ⟨more, first⟩ : ∃ more, listed layout.inner (fields.map (writeField layout.inner)) = '"' :: more := by
      obtain ⟨field, others, rfl⟩ := List.exists_cons_of_ne_nil empty
      cases others with
      | nil => exact ⟨_, rfl⟩
      | cons next others => exact ⟨_, rfl⟩
    have written : write layout (.object fields) = '\x7b' :: (layout.inner.lineBreak ++
        listed layout.inner (fields.map (writeField layout.inner)) ++ layout.lineBreak ++ ['\x7d']) := by
      rw [write, writeFields_map, enclosed_listed layout '\x7b' '\x7d' (by simpa using empty)]
    rw [written] at enough
    have inside : readFields fuel _ = .ok (fields, rest) :=
      readFields_listed layout rest known each empty (by simp at enough; omega)
    have starts : skipSpace (layout.inner.lineBreak ++ ('"' :: more ++ (layout.lineBreak ++ '\x7d' :: rest))) =
        '"' :: more ++ (layout.lineBreak ++ '\x7d' :: rest) :=
      skipSpace_lineBreak layout.inner (by rintro c more ⟨⟩; rfl)
    have parts : write layout (.object fields) ++ rest =
        '\x7b' :: (layout.inner.lineBreak ++ ('"' :: more ++ (layout.lineBreak ++ '\x7d' :: rest))) := by
      simp [written, first]
    have gathered := @Datum.foldl_setField _ [] fields (fun field member => (known field member).1) distinct
    rw [first] at inside
    rw [List.cons_append] at starts inside parts
    rw [parts]
    simp [readValue, starts, inside, bind, Except.bind, gathered]
    rfl

theorem readValue_write (layout : Layout) (known : d.inJson = true) (fits : d.writable = true) :
    ReadsBack layout d := by
  refine Datum.inJson_induction (motive := fun d => ∀ layout, ReadsBack layout d) ?null ?bool ?int ?text ?list ?object
    d known fits layout
  case null =>
    intro layout fuel rest enough _
    obtain ⟨fuel, rfl⟩ : ∃ less, fuel = less + 1 := ⟨fuel - 1, by omega⟩
    rfl
  case bool =>
    intro b layout fuel rest enough _
    obtain ⟨fuel, rfl⟩ : ∃ less, fuel = less + 1 := ⟨fuel - 1, by omega⟩
    cases b <;> rfl
  case int => exact fun n fits layout => readsBack_int layout fits
  case text => exact fun s layout => readsBack_text layout s
  case list =>
    intro items known each layout
    exact readsBack_list layout known fun item member => each item member layout.inner
  case object =>
    intro fields known distinct each layout
    exact readsBack_object layout known distinct fun field member => each field member layout.inner

theorem read_write (layout : Layout) (known : d.inJson = true) (fits : d.writable = true) :
    read (write layout d) = .ok d := by
  obtain ⟨c, more, first, opens⟩ := write_first layout known
  have value := readValue_write layout known fits (2 * (write layout d).length + 2) [] (by omega) closing_nil
  have starts : skipSpace (write layout d) = write layout d :=
    skipSpace_solid (by rw [first]; rintro c more ⟨⟩; exact opens.solid)
  have whole : readWhole (write layout d) = .ok d := by
    rw [List.append_nil] at value
    rw [first] at value starts ⊢
    rw [readWhole, starts, value]
    · rfl
    · rintro more ⟨⟩
      exact opens.unmarked rfl
  rw [read, whole]
  rfl

theorem obstacleInItems?_none (each : ∀ item ∈ items, obstacle? around item = none) :
    obstacleInItems? around items = none := by
  induction items with
  | nil => rfl
  | cons item items ih =>
      obtain ⟨here, later⟩ := List.forall_mem_cons.mp each
      rw [obstacleInItems?, here, ih later]
      rfl

theorem obstacleInFields?_none {fields : List (Datum × Datum)}
    (each : ∀ field ∈ fields, obstacle? around field.1 = none ∧ obstacle? around field.2 = none) :
    obstacleInFields? around fields = none := by
  induction fields with
  | nil => rfl
  | cons field fields ih =>
      obtain ⟨here, later⟩ := List.forall_mem_cons.mp each
      rw [obstacleInFields?, here.1, here.2, ih later]
      rfl

theorem obstacle?_inJson (around : List Nat) (known : d.inJson = true) (fits : d.writable = true) :
    obstacle? around d = none := by
  refine Datum.inJson_induction (motive := fun d => obstacle? around d = none) rfl (fun _ => rfl) ?int (fun _ => rfl)
    ?list ?object d known fits
  case int =>
    intro n fits
    rw [obstacle?, integerObstacle?, if_pos fits]
  case list => exact fun items _ each => obstacleInItems?_none each
  case object =>
    intro fields known _ each
    refine obstacleInFields?_none fun field member => ⟨?_, each field member⟩
    obtain ⟨name, text⟩ := Datum.exists_text (known field member).1
    rw [text]
    rfl

theorem checked_inJson (known : d.inJson = true) (fits : d.writable = true) : checked d = .ok d := by
  rw [checked, obstacle?_inJson [] known fits]

end Json

namespace Program

variable {p : Program}

theorem toJson_document (proper : p.Proper) (known : p.Every Datum.inJson) (fits : p.Every Datum.writable) :
    p.toJson = .ok (Json.render p.document) := by
  have knownWhole := Datum.composed_inJson.document proper known
  have fitsWhole := Datum.composed_writable.document proper fits
  have checked := Json.checked_inJson knownWhole fitsWhole
  rw [toJson, toDatum, Document.ofProgram_proper proper]
  simp only [refusing, Except.mapError, bind, Except.bind, checked]
  rfl

-- A program with nothing foreign in it is written as JSON and read back as it was, whatever data
-- of JSON its names, texts and results are, as long as none of their integers has too many digits.
theorem ofJson_toJson (proper : p.Proper) (known : p.Every Datum.inJson) (fits : p.Every Datum.writable) :
    ∃ text, p.toJson = .ok text ∧ ofJson text = .ok p := by
  have knownWhole := Datum.composed_inJson.document proper known
  have fitsWhole := Datum.composed_writable.document proper fits
  have reread : ofJson (Json.render p.document) = .ok p := by
    rw [ofJson, Json.render, Json.read_write _ knownWhole fitsWhole]
    simp only [bind, Except.bind, ofDatum, Document.toProgram_document proper]
    rfl
  exact ⟨_, toJson_document proper known fits, reread⟩

def manifold : Program where
  statements := [
    ⟨.text "\"a\\\n\x00\x7f\u00e9\u2028\ufeff", .text "😀"⟩,
    ⟨.int (-1), .list [.null, .list [], .object [], .list [.object [(.text "", .bool false)]]]⟩]
  results := [⟨.null, .object [(.text "b", .int 0), (.text "a", .list [.bool true, .text ""])]⟩]
  rules := [⟨.node .or (.leaf ⟨.int (-1), true⟩) (.leaf ⟨.list [.text "x"], false⟩), .null⟩]

theorem ofJson_toJson_manifold : manifold.Proper ∧ manifold.Every Datum.inJson ∧ manifold.Every Datum.writable ∧
    ∃ text, manifold.toJson = .ok text ∧ ofJson text = .ok manifold := by
  have proper : manifold.Proper := by decide
  have known : manifold.Every Datum.inJson := by decide
  have fits : manifold.Every Datum.writable := by decide +kernel
  exact ⟨proper, known, fits, ofJson_toJson proper known fits⟩

def long : Datum := .int (10 ^ Datum.digitLimit : Nat)

theorem obstacle?_long (around : List Nat) : Json.obstacle? around long = some .tooManyDigits := by
  have large : ∀ limit : Nat, ¬((10 ^ limit : Nat) : Int).natAbs < Nat.pow 10 limit := by simp
  have unfit : Datum.fitsLimit (10 ^ Datum.digitLimit : Nat) = false := decide_eq_false (large Datum.digitLimit)
  rw [long, Json.obstacle?, Json.integerObstacle?, unfit]
  rfl

-- The bound on digits can not be left out: such an integer can not be written.
theorem toJson_long :
    ¬∀ p : Program, p.Proper → p.Every Datum.inJson → ∃ text, p.toJson = .ok text ∧ ofJson text = .ok p := by
  intro all
  obtain ⟨text, written, _⟩ := all ⟨[⟨.text "a", long⟩], [], []⟩ (by decide) (by decide)
  have stands : Json.obstacle? [] (document ⟨[⟨.text "a", long⟩], [], []⟩) = some .tooManyDigits := by
    simp [document, Datum.record, Document.ofDeclaration, Json.obstacle?, Json.obstacleInItems?,
      Json.obstacleInFields?, obstacle?_long]
  have refused : toJson ⟨[⟨.text "a", long⟩], [], []⟩ = .error (.refused .tooManyDigits) := by
    rw [toJson, toDatum, Document.ofProgram_proper (by decide)]
    simp only [refusing, Except.mapError, bind, Except.bind, Json.checked, stands]
  rw [refused] at written
  cases written

end Program

end Triage
