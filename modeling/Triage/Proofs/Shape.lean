import Triage.Proofs.Document

namespace Triage

namespace Datum

inductive Json : Datum → Prop where
  | null : Json .null
  | bool (b : Bool) : Json (.bool b)
  | int (n : Int) : Json (.int n)
  | real (x : Binary64) : Json (.real x)
  | text (s : String) : Json (.text s)
  | list : (∀ item ∈ items, Json item) → Json (.list items)
  | object : (∀ field ∈ fields, field.1.isText = true) → (fields.map Prod.fst).Nodup →
      (∀ field ∈ fields, Json field.2) → Json (.object fields)

theorem Json.opened (json : Json d) : d.opened = d := by
  cases json <;> rfl

theorem Json.record {fields : List (String × Datum)} (distinct : (fields.map Prod.fst).Nodup)
    (values : ∀ field ∈ fields, Json field.2) : Json (Datum.record fields) := by
  refine .object ?_ (record_keys distinct) ?_
  · intro _ member
    obtain ⟨_, _, rfl⟩ := List.mem_map.mp member
    rfl
  · intro _ member
    obtain ⟨field, inside, rfl⟩ := List.mem_map.mp member
    exact values field inside

theorem field?_mem (found : field? fields name = some value) : (.text name, value) ∈ fields := by
  obtain ⟨⟨key, _⟩, here, rfl⟩ := Option.map_eq_some_iff.mp found
  have same : key = .text name := by simpa using List.find?_some here
  rw [← same]
  exact List.mem_of_find?_eq_some here

theorem Json.field (json : Json (.object fields)) (found : field? fields name = some value) : Json value := by
  cases json with
  | object _ _ values => exact values _ (field?_mem found)

end Datum

open Datum

theorem Connective.ofDatum_eq_ok {op : Connective} : Connective.ofDatum d = .ok op ↔ d = .text op.name := by
  constructor
  · intro accepted
    unfold Connective.ofDatum at accepted
    split at accepted
    · rename_i same
      cases accepted
      exact same
    · split at accepted
      · rename_i same
        cases accepted
        exact same
      · obtain ⟨_, _, failed⟩ := bind_eq_ok.mp accepted
        cases failed
  · rintro rfl
    exact Connective.ofDatum_name op

namespace Document

theorem require_eq_ok : require fields name = .ok value ↔ field? fields name = some value := by
  unfold require
  cases field? fields name <;> simp

theorem fieldsOf_eq_ok : fieldsOf d = .ok fields ↔ d.opened = .object fields := by
  unfold fieldsOf
  cases d.opened <;> simp

def sign (fields : List (Datum × Datum)) : Bool := ((field? fields "negated").getD (.bool false)).truth

theorem readCondition_eq_ok : readCondition d = .ok condition ↔ ∃ fields, d.opened = .object fields ∧
    field? fields "variable" = some condition.statement ∧ condition.negated = sign fields := by
  simp only [readCondition, bind_eq_ok, fieldsOf_eq_ok, require_eq_ok]
  constructor
  · rintro ⟨fields, opened, statement, asked, accepted⟩
    cases accepted
    exact ⟨fields, opened, asked, rfl⟩
  · rintro ⟨fields, opened, asked, negated⟩
    obtain ⟨statement, _⟩ := condition
    cases negated
    exact ⟨fields, opened, statement, asked, rfl⟩

end Document

namespace Expr
open Document

inductive Reads (around : Surroundings) (fields : List (Datum × Datum)) : Expr → Prop where
  | condition (form : field? fields "type" = some (.text "condition")) (given : field? fields "condition" = some held)
      (asked : readCondition (held.closed around) = .ok condition) : Reads around fields (.leaf condition)
  | logical (form : field? fields "type" = some (.text "logical")) (given : field? fields "operator" = some word)
      (connective : word.closed around = .text (Connective.name op)) (left : field? fields "left" = some l)
      (right : field? fields "right" = some r) (first : ofDatumIn around l = .ok leftRead)
      (second : ofDatumIn around r = .ok rightRead) : Reads around fields (.node op leftRead rightRead)

theorem field?_form (form : (field? fields name).getD .null = .text word) : field? fields name = some (.text word) := by
  cases found : field? fields name with
  | none =>
      rw [found] at form
      cases form
  | some value =>
      rw [found] at form
      exact congrArg some form

variable {e : Expr} {around : Surroundings}

theorem ofDatumIn_object (accepted : ofDatumIn around (.object fields) = .ok e) : Reads around fields e := by
  rw [ofDatumIn] at accepted
  split at accepted
  · rename_i form
    obtain ⟨inner, given, accepted⟩ := bind_eq_ok.mp accepted
    obtain ⟨condition, asked, accepted⟩ := bind_eq_ok.mp accepted
    cases accepted
    exact .condition (field?_form form) (require_eq_ok.mp given) asked
  · split at accepted
    · rename_i form
      obtain ⟨word, given, accepted⟩ := bind_eq_ok.mp accepted
      obtain ⟨op, connective, accepted⟩ := bind_eq_ok.mp accepted
      split at accepted
      · cases accepted
      · rename_i l left
        obtain ⟨leftRead, first, accepted⟩ := bind_eq_ok.mp accepted
        split at accepted
        · cases accepted
        · rename_i r right
          obtain ⟨rightRead, second, accepted⟩ := bind_eq_ok.mp accepted
          cases accepted
          exact .logical (field?_form form) (require_eq_ok.mp given) (Connective.ofDatum_eq_ok.mp connective) left right
            first second
    · obtain ⟨_, _, failed⟩ := bind_eq_ok.mp accepted
      cases failed

theorem ofDatumIn_eq_ok (accepted : ofDatumIn around d = .ok e) :
    (∃ fields, d = .object fields ∧ Reads around fields e) ∨
      ∃ mark content within, d = .shared mark content ∧ ofDatumIn within content = .ok e := by
  cases d with
  | object fields => exact Or.inl ⟨fields, rfl, ofDatumIn_object accepted⟩
  | shared mark content =>
      rw [ofDatumIn] at accepted
      exact Or.inr ⟨mark, content, _, rfl, accepted⟩
  | _ =>
      unfold ofDatumIn at accepted
      cases accepted

theorem ofDatumIn_proper {e : Expr} {around : Surroundings} (accepted : ofDatumIn around d = .ok e) : e.proper = true := by
  rcases ofDatumIn_eq_ok accepted with ⟨fields, rfl, reads⟩ | ⟨mark, content, within, rfl, inner⟩
  · cases reads with
    | condition => rfl
    | @logical _ _ l r _ _ _ _ _ left right first second =>
        have smaller := sizeOf_field left
        have shorter := sizeOf_field right
        rw [Expr.proper, ofDatumIn_proper first, ofDatumIn_proper second, Bool.and_self]
  · exact ofDatumIn_proper inner
termination_by sizeOf d

-- The shape of an expression: a condition that asks for a variable, or a connective with two operands
-- of that shape.
inductive Given : Datum → Prop where
  | condition (form : field? fields "type" = some (.text "condition"))
      (inner : field? fields "condition" = some (.object parts)) (asked : field? parts "variable" = some statement) :
      Given (.object fields)
  | logical (form : field? fields "type" = some (.text "logical"))
      (operator : field? fields "operator" = some (.text (Connective.name op)))
      (left : field? fields "left" = some l) (right : field? fields "right" = some r)
      (first : Given l) (second : Given r) : Given (.object fields)

-- What is left of an expression when only the fields of its shape are kept, at every level, with the
-- truth of each sign in the place of the sign.
inductive Reduces : Datum → Datum → Prop where
  | condition (form : field? fields "type" = some (.text "condition"))
      (inner : field? fields "condition" = some (.object parts)) (asked : field? parts "variable" = some statement) :
      Reduces (.object fields) (.record [
        ("type", .text "condition"),
        ("condition", .record [("variable", statement), ("negated", .bool (sign parts))])])
  | logical (form : field? fields "type" = some (.text "logical"))
      (operator : field? fields "operator" = some (.text (Connective.name op)))
      (left : field? fields "left" = some l) (right : field? fields "right" = some r)
      (first : Reduces l l') (second : Reduces r r') :
      Reduces (.object fields) (.record [
        ("type", .text "logical"), ("operator", .text (Connective.name op)), ("left", l'), ("right", r')])

theorem ofDatum_given (json : d.Json) (accepted : ofDatum d = .ok e) : Given d ∧ Reduces d e.document := by
  induction json generalizing e with
  | @object fields texts distinct values ih =>
      have whole := Json.object texts distinct values
      cases ofDatumIn_object accepted with
      | @condition held condition form given asked =>
          obtain ⟨parts, opened, statement, negated⟩ := readCondition_eq_ok.mp asked
          obtain rfl : held = .object parts := (whole.field given).opened.symm.trans opened
          refine ⟨.condition form given statement, ?_⟩
          rw [document, negated]
          exact .condition form given statement
      | @logical word op l r _ _ form given connective left right first second =>
          obtain rfl : word = .text op.name := connective
          obtain ⟨leftGiven, leftReduces⟩ := ih _ (field?_mem left) first
          obtain ⟨rightGiven, rightReduces⟩ := ih _ (field?_mem right) second
          exact ⟨.logical form given left right leftGiven rightGiven,
            .logical form given left right leftReduces rightReduces⟩
  | _ =>
      rcases ofDatumIn_eq_ok accepted with ⟨_, same, _⟩ | ⟨_, _, _, same, _⟩
      · cases same
      · cases same

theorem Given.read (given : Given d) : ∃ e, ofDatum d = .ok e := by
  induction given with
  | @condition fields parts statement form inner asked =>
      have read : readCondition (.object parts) = .ok ⟨statement, sign parts⟩ :=
        readCondition_eq_ok.mpr ⟨parts, rfl, asked, rfl⟩
      refine ⟨.leaf ⟨statement, sign parts⟩, ?_⟩
      rw [ofDatum, ofDatumIn, form, require_eq_ok.mpr inner]
      exact bind_eq_ok.mpr ⟨_, rfl, bind_eq_ok.mpr ⟨_, read, rfl⟩⟩
  | @logical fields op _ _ form operator left right _ _ ihLeft ihRight =>
      obtain ⟨l, first⟩ := ihLeft
      obtain ⟨r, second⟩ := ihRight
      refine ⟨.node op l r, ?_⟩
      rw [ofDatum_logical form operator left right, first, second]
      rfl

end Expr

namespace Document

variable {p : Program} {d : Datum}

theorem readRule_proper (accepted : readRule d = .ok rule) : rule.expression.proper = true := by
  unfold readRule at accepted
  obtain ⟨fields, _, accepted⟩ := bind_eq_ok.mp accepted
  obtain ⟨given, _, accepted⟩ := bind_eq_ok.mp accepted
  obtain ⟨expression, read, accepted⟩ := bind_eq_ok.mp accepted
  obtain ⟨result, _, accepted⟩ := bind_eq_ok.mp accepted
  cases accepted
  exact Expr.ofDatumIn_proper read

theorem toProgram_proper (accepted : toProgram d = .ok p) : p.Proper := by
  unfold toProgram at accepted
  split at accepted
  · obtain ⟨statements, _, accepted⟩ := bind_eq_ok.mp accepted
    obtain ⟨results, _, accepted⟩ := bind_eq_ok.mp accepted
    obtain ⟨rules, read, accepted⟩ := bind_eq_ok.mp accepted
    cases accepted
    unfold readMembers at read
    obtain ⟨items, _, read⟩ := bind_eq_ok.mp read
    intro rule member
    obtain ⟨_, _, here⟩ := (mem_mapM read).mp member
    exact readRule_proper here
  · cases accepted

def normalised (d : Datum) : Except Refusal Datum := do ofProgram (← toProgram d)

theorem normalised_document (accepted : toProgram d = .ok p) : normalised d = .ok p.document := by
  rw [normalised, accepted]
  exact ofProgram_proper (toProgram_proper accepted)

-- Of the data of JSON, those and only those of the shape of an expression are read as one, and the
-- expression's document is what the shape keeps of the datum. A program with nothing foreign in it is
-- read back from its document, whatever its names, texts and results are, and so the document of what
-- was read is its own normal form.
theorem reading_normalises :
    (∀ d : Datum, d.Json → ((∃ e, Expr.ofDatum d = .ok e) ↔ Expr.Given d)) ∧
    (∀ (d : Datum) (e : Expr), d.Json → Expr.ofDatum d = .ok e →
      ∃ reduced, e.toDatum = .ok reduced ∧ Expr.Reduces d reduced) ∧
    (∀ p : Program, p.Proper → ∃ d, ofProgram p = .ok d ∧ toProgram d = .ok p) ∧
    ∀ (d : Datum) (p : Program), toProgram d = .ok p →
      ∃ normal, normalised d = .ok normal ∧ normalised normal = .ok normal := by
  refine ⟨fun d json => ⟨?_, Expr.Given.read⟩, fun d e json accepted => ?_, fun p proper => ?_, fun d p accepted => ?_⟩
  · rintro ⟨e, accepted⟩
    exact (Expr.ofDatum_given json accepted).1
  · exact ⟨_, Expr.toDatum_proper (Expr.ofDatumIn_proper accepted), (Expr.ofDatum_given json accepted).2⟩
  · exact ⟨_, ofProgram_proper proper, toProgram_document proper⟩
  · have again := toProgram_document (toProgram_proper accepted)
    exact ⟨_, normalised_document accepted, normalised_document again⟩

def scattered : Datum :=
  .record [
    ("right", .record [("type", .text "condition"), ("condition", .record [("variable", .int 7)])]),
    ("type", .text "logical"), ("note", .list []), ("operator", .text "OR"),
    ("left", .record [
      ("condition", .record [("negated", .list [.null]), ("variable", .text "a"), ("type", .null)]),
      ("operator", .text "XOR"), ("type", .text "condition")])]

theorem reading_normalises_scattered : scattered.Json ∧
    Expr.ofDatum scattered = .ok (.node .or (.leaf ⟨.text "a", true⟩) (.leaf ⟨.int 7, false⟩)) ∧
    Expr.Given scattered ∧ ∃ reduced, Expr.Reduces scattered reduced := by
  have first : Json (.record [("condition", .record [("negated", .list [.null]), ("variable", .text "a"),
      ("type", .null)]), ("operator", .text "XOR"), ("type", .text "condition")]) := by
    have inner : Json (.record [("negated", .list [.null]), ("variable", .text "a"), ("type", .null)]) :=
      .record (by decide) (by simp [Json.null, Json.text, Json.list])
    exact .record (by decide) (by simp [inner, Json.text])
  have second : Json (.record [("type", .text "condition"), ("condition", .record [("variable", .int 7)])]) := by
    have inner : Json (.record [("variable", .int 7)]) := .record (by decide) (by simp [Json.int])
    exact .record (by decide) (by simp [inner, Json.text])
  have json : scattered.Json := .record (by decide) (by simp [first, second, Json.text, Json.list])
  have accepted : Expr.ofDatum scattered = .ok (.node .or (.leaf ⟨.text "a", true⟩) (.leaf ⟨.int 7, false⟩)) := by
    decide +kernel
  obtain ⟨given, reduces, _⟩ := reading_normalises
  obtain ⟨reduced, _, here⟩ := reduces scattered _ json accepted
  exact ⟨json, accepted, (given scattered json).mp ⟨_, accepted⟩, reduced, here⟩

end Document

end Triage
