import Triage.Datum.Key
import Triage.Yaml.Graph.Basic
import Triage.Yaml.Number

namespace Triage.Yaml.Graph

inductive Made where
  | plain (d : Datum)
  | list (items : List Nat)
  | entries (pairs : List (Nat × Nat))
  | map (fields : List (Datum × Nat))
  deriving Repr

-- `waiting` holds the containers that are not filled yet, latest first. `merges` is the fuel for merge
-- keys.
structure Making where
  graph : Graph
  made : Array (Option Made)
  waiting : List Nat
  merges : Nat

def scalarText (g : Graph) : (fuel : Nat) → Nat → Except Failure (List Char)
  | 0, _ => .error (.refused .endless)
  | fuel + 1, v =>
      match g[v]?.map Vertex.content with
      | some (.text text) => .ok text
      | some (.fields fields) =>
          match fields.find? fun (key, _) => g.hasTag .value key with
          | some (_, value) => scalarText g fuel value
          | none => .error .badYaml
      | _ => .error .badYaml

-- What is not a number has a mark of its own in every place where it is worked out.
def marked (v : Nat) : Datum → Datum
  | .real x => .real (if x = unmarked then .nan (v + 2) else x)
  | d => d

namespace Making

def put (s : Making) (v : Nat) (made : Made) : Making := { s with made := s.made.setIfInBounds v (some made) }

def wait (s : Making) (v : Nat) (made : Made) : Making := { s.put v made with waiting := v :: s.waiting }

def isScalar : Tag → Bool
  | .null | .bool | .int | .real | .text => true
  | _ => false

def meet (s : Making) (v : Nat) : Except Failure Making :=
  if ((s.made[v]?).getD none).isSome then .ok s
  else
    match s.graph[v]?.map Vertex.tag with
    | some .list => .ok (s.wait v (.list []))
    | some .map => .ok (s.wait v (.map []))
    | some .entries => .ok (s.wait v (.entries []))
    | some tag => do
        if !isScalar tag then throw .badYaml
        let text ← scalarText s.graph (s.graph.size + 1) v
        return s.put v (.plain (marked v (← scalarDatum tag text)))
    | none => .error .badYaml

def meetFields (s : Making) (fields : List (Nat × Nat)) : Except Failure (Making × List (Datum × Nat)) :=
  fields.foldlM
    (fun (s, known) (key, value) => do
      let s ← s.meet key
      match s.made[key]? with
      | some (some (.plain name)) => return (← s.meet value, Datum.setField known name value)
      | _ => throw .badYaml)
    (s, [])

def meetEntries (s : Making) (items : List Nat) : Except Failure (Making × List (Nat × Nat)) :=
  items.foldlM
    (fun (s, pairs) item =>
      match s.graph.fields? item with
      | some [(key, value)] => do return (← (← s.meet key).meet value, pairs ++ [(key, value)])
      | _ => .error .badYaml)
    (s, [])

def fill (s : Making) (v : Nat) : Except Failure Making :=
  match s.graph[v]? with
  | some ⟨.list, .items items⟩ => do return (← items.foldlM meet s).put v (.list items)
  | some ⟨.map, .fields _⟩ => do
      let graph ← settle s.merges [] s.graph v
      let (s, fields) ← { s with graph := graph }.meetFields ((graph.fields? v).getD [])
      return s.put v (.map fields)
  | some ⟨.entries, .items items⟩ => do
      let (s, pairs) ← s.meetEntries items
      return s.put v (.entries pairs)
  | _ => .error .badYaml

def complete : (fuel : Nat) → Making → Except Failure Making
  | 0, s => .ok s
  | fuel + 1, s =>
      if s.waiting.isEmpty then .ok s
      else do complete fuel (← s.waiting.reverse.foldlM fill { s with waiting := [] })

def start (g : Graph) : Making := ⟨g, Array.replicate g.size none, [], g.fieldCount + 1⟩

end Making

def Made.parts : Made → List Nat
  | .plain _ => []
  | .list items => items
  | .entries pairs => pairs.flatMap fun (key, value) => [key, value]
  | .map fields => fields.map Prod.snd

def uses (made : Array (Option Made)) : Array Nat :=
  let parts := made.toList.flatMap fun made => (made.map Made.parts).getD []
  (0 :: parts).foldl (fun counts v => counts.setIfInBounds v (counts[v]?.getD 0 + 1))
    (Array.replicate made.size 0)

def share (isShared : Bool) (v : Nat) (content : Datum) : Datum :=
  if isShared then .shared v content else content

-- The datum of a vertex, and whether it refers to a container that it is part of. One that does not
-- is the same everywhere, and is kept for its other places. What stands in several places is shared,
-- and so is all that it holds.
def unfold (made : Array (Option Made)) (uses : Array Nat) :
    (fuel : Nat) → (around : List Nat) → (isShared : Bool) → (v : Nat) →
      StateM (Array (Option Datum)) (Datum × Bool)
  | 0, _, _, v => return (.again v, true)
  | fuel + 1, around, isShared, v => do
      if around.contains v then return (.again v, true)
      if let some (some known) := (← get)[v]? then return (known, false)
      let isShared := isShared || 1 < uses[v]?.getD 0
      let inside := unfold made uses fuel (v :: around) isShared
      let (d, loops) ← match made[v]?.getD none with
        | some (.plain d) => pure (d, false)
        | some (.list items) => do
            let parts ← items.mapM inside
            pure (share isShared v (.list (parts.map Prod.fst)), parts.any Prod.snd)
        | some (.entries pairs) => do
            let parts ← pairs.mapM fun (key, value) => do return (← inside key, ← inside value)
            pure (share isShared v (.list (parts.map fun (key, value) => .pair key.1 value.1)),
              parts.any fun (key, value) => key.2 || value.2)
        | some (.map fields) => do
            let parts ← fields.mapM fun (name, value) => do return (name, ← inside value)
            pure (share isShared v (.object (parts.map fun (name, value) => (name, value.1))),
              parts.any fun (_, value) => value.2)
        | none => pure (.null, false)
      if !loops then modify fun known => known.setIfInBounds v (some d)
      return (d, loops)

def toDatum (g : Graph) : Except Failure Datum := do
  let s ← (← (Making.start g).meet 0).complete (g.size + 1)
  let known := Array.replicate g.size none
  return ((unfold s.made (uses s.made) (g.size + 1) [] false 0).run known).1.1

end Triage.Yaml.Graph
