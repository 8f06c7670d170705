import Triage.Datum.Key

namespace Triage

inductive Likeness where
  | alike
  | different
  | endless
  deriving DecidableEq, Repr

namespace Likeness

def both : Likeness → Likeness → Likeness
  | .alike, next => next
  | verdict, _ => verdict

def ofBool (same : Bool) : Likeness := if same then .alike else .different

def listOf (compare : α → β → Likeness) : List α → List β → Likeness
  | [], [] => .alike
  | a :: items, b :: others => (compare a b).both (listOf compare items others)
  | _, _ => .different

end Likeness

namespace Datum

mutual

def likeness : Datum → Datum → Likeness
  | .list items, d =>
      match d.opened with
      | .list others => if items.length = others.length then likenessOfItems items others else .different
      | _ => .different
  | .pair first second, d =>
      match d.opened with
      | .pair other another => (likeness first other).both (likeness second another)
      | _ => .different
  | .object fields, d =>
      match d.opened with
      | .object others => if fields.length = others.length then likenessOfFields fields others else .different
      | _ => .different
  | .shared _ content, d => likeness content d
  | .again _, _ => .endless
  | a, d => .ofBool (sameKey a d)

def likenessOfItems : List Datum → List Datum → Likeness
  | [], _ => .alike
  | _, [] => .alike
  | a :: items, b :: others => (likeness a b).both (likenessOfItems items others)

def likenessOfFields : List (Datum × Datum) → List (Datum × Datum) → Likeness
  | [], _ => .alike
  | (key, value) :: fields, others =>
      match others.find? fun (other, _) => sameKey other key with
      | some (_, other) => (likeness value other).both (likenessOfFields fields others)
      | none => .different

end

end Datum

end Triage
