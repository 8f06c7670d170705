import Triage.Datum.Basic

namespace Triage.Datum

mutual

-- A datum in which a mark is replaced by what it stands for.
def put (mark : Nat) (whole : Datum) : Datum → Datum
  | .list items => .list (putItems mark whole items)
  | .pair first second => .pair (put mark whole first) (put mark whole second)
  | .object fields => .object (putFields mark whole fields)
  | .shared other content => .shared other (if other = mark then content else put mark whole content)
  | .again other => if other = mark then whole else .again other
  | d => d

def putItems (mark : Nat) (whole : Datum) : List Datum → List Datum
  | [] => []
  | item :: items => put mark whole item :: putItems mark whole items

def putFields (mark : Nat) (whole : Datum) : List (Datum × Datum) → List (Datum × Datum)
  | [] => []
  | (key, value) :: fields => (key, put mark whole value) :: putFields mark whole fields

end

def opened : Datum → Datum
  | .shared mark content => put mark (.shared mark content) content
  | d => d

abbrev Surroundings := List (Nat × Datum)

def closed (around : Surroundings) (d : Datum) : Datum :=
  around.foldl (fun d (mark, whole) => put mark whole d) d

def isKey : Datum → Bool
  | .list _ | .pair .. | .object _ | .shared .. | .again _ => false
  | _ => true

def keyForm : Datum → Datum
  | .bool b => .int (if b then 1 else 0)
  | .real x =>
      match x.integer? with
      | some n => .int n
      | none => .real x
  | d => d

def sameKey (a b : Datum) : Bool := a.keyForm == b.keyForm

def hasKey (names : List Datum) (name : Datum) : Bool := names.any (sameKey · name)

-- Sets the value under a key; a key that is already there keeps its place and form.
def setField : List (Datum × α) → Datum → α → List (Datum × α)
  | [], key, value => [(key, value)]
  | (k, v) :: fields, key, value =>
      if sameKey k key then (k, value) :: fields else (k, v) :: setField fields key value

def union (names more : List Datum) : List Datum :=
  more.foldl (fun all name => if hasKey all name then all else all ++ [name]) names

def distinct (names : List Datum) : List Datum := union [] names

def minus (names others : List Datum) : List Datum := names.filter fun name => !hasKey others name

def occurrences (names : List Datum) (name : Datum) : Nat := names.countP (sameKey · name)

def quotient? : Datum → Option (Int × Nat)
  | .bool b => some (if b then 1 else 0, 1)
  | .int n => some (n, 1)
  | .real x => some x.quotient
  | _ => none

def textLe : Datum → Datum → Bool
  | .text s, .text t => decide (s ≤ t)
  | _, _ => true

def numberLe (a b : Datum) : Bool :=
  match a.quotient?, b.quotient? with
  | some (m, c), some (n, d) => decide (m * d ≤ n * c)
  | _, _ => true

-- Texts in the order of their code points, or numbers by size. Nothing else can be put in order,
-- unless it stands alone.
def sort? (names : List Datum) : Option (List Datum) :=
  if names.length ≤ 1 then some names
  else if names.all isText then some (names.mergeSort textLe)
  else if names.all fun name => name.quotient?.isSome then some (names.mergeSort numberLe)
  else none

end Triage.Datum
