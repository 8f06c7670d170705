import Triage.Binary64

namespace Triage

-- A datum. An object keeps its fields in order, and no two of them have the same key.
inductive Datum where
  | null
  | bool (b : Bool)
  | int (n : Int)
  | real (x : Binary64)
  | text (s : String)
  | list (items : List Datum)
  | pair (first second : Datum)
  | object (fields : List (Datum × Datum))
  -- A list or an object that may stand in several places and is one and the same in all of them.
  | shared (mark : Nat) (content : Datum)
  -- The shared datum of this mark, inside its own content.
  | again (mark : Nat)
  deriving Inhabited, Repr

namespace Datum

mutual

def same : Datum → Datum → Bool
  | .null, .null => true
  | .bool a, .bool b => a == b
  | .int m, .int n => m == n
  | .real x, .real y => x == y
  | .text s, .text t => s == t
  | .list items, .list others => sameItems items others
  | .pair a b, .pair c d => same a c && same b d
  | .object fields, .object others => sameFields fields others
  | .shared m a, .shared n b => m == n && same a b
  | .again m, .again n => m == n
  | _, _ => false

def sameItems : List Datum → List Datum → Bool
  | [], [] => true
  | a :: items, b :: others => same a b && sameItems items others
  | _, _ => false

def sameFields : List (Datum × Datum) → List (Datum × Datum) → Bool
  | [], [] => true
  | (k, a) :: fields, (l, b) :: others => same k l && same a b && sameFields fields others
  | _, _ => false

end

mutual

theorem same_iff : ∀ a b : Datum, same a b = true ↔ a = b
  | .null, b => by cases b <;> simp [same]
  | .bool _, b => by cases b <;> simp [same]
  | .int _, b => by cases b <;> simp [same]
  | .real _, b => by cases b <;> simp [same]
  | .text _, b => by cases b <;> simp [same]
  | .list items, b => by cases b <;> simp [same, sameItems_iff items]
  | .pair first second, b => by cases b <;> simp [same, same_iff first, same_iff second]
  | .object fields, b => by cases b <;> simp [same, sameFields_iff fields]
  | .shared _ content, b => by cases b <;> simp [same, same_iff content]
  | .again _, b => by cases b <;> simp [same]

theorem sameItems_iff : ∀ items others : List Datum, sameItems items others = true ↔ items = others
  | [], others => by cases others <;> simp [sameItems]
  | a :: items, others => by
      cases others with
      | nil => simp [sameItems]
      | cons b others => simp [sameItems, same_iff a b, sameItems_iff items others]

theorem sameFields_iff : ∀ fields others : List (Datum × Datum),
    sameFields fields others = true ↔ fields = others
  | [], others => by cases others <;> simp [sameFields]
  | (k, a) :: fields, others => by
      cases others with
      | nil => simp [sameFields]
      | cons other others =>
          obtain ⟨l, b⟩ := other
          simp [sameFields, same_iff k l, same_iff a b, sameFields_iff fields others]

end

instance : DecidableEq Datum := fun a b => decidable_of_iff _ (same_iff a b)

def ofChars (text : List Char) : Datum := .text (String.ofList text)

def record (fields : List (String × Datum)) : Datum :=
  .object (fields.map fun (name, value) => (.text name, value))

def field? (fields : List (Datum × Datum)) (name : String) : Option Datum :=
  (fields.find? fun (key, _) => key == .text name).map Prod.snd

-- False for null, false, zero and whatever is empty.
def truth : Datum → Bool
  | .null => false
  | .bool b => b
  | .int n => n != 0
  | .real x => !x.isZero
  | .text s => s != ""
  | .list items => !items.isEmpty
  | .object fields => !fields.isEmpty
  | .shared _ content => content.truth
  | .pair .. | .again _ => true

def isNaN : Datum → Bool
  | .real x => x.isNaN
  | _ => false

def isText : Datum → Bool
  | .text _ => true
  | _ => false

end Datum

end Triage
