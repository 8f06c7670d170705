import Triage.Yaml.Resolve
import Triage.Failure

namespace Triage.Yaml

inductive Content where
  | text (text : List Char)
  | items (items : List Nat)
  | fields (fields : List (Nat × Nat))
  deriving Repr

structure Vertex where
  tag : Tag
  content : Content
  deriving Repr

abbrev Graph := Array Vertex

namespace Graph

def hasTag (g : Graph) (tag : Tag) (v : Nat) : Bool := g[v]?.any (·.tag = tag)

def fields? (g : Graph) (v : Nat) : Option (List (Nat × Nat)) :=
  match g[v]? with
  | some ⟨_, .fields fields⟩ => some fields
  | _ => none

def setContent (g : Graph) (v : Nat) (content : Content) : Graph :=
  match g[v]? with
  | some vertex => g.setIfInBounds v { vertex with content := content }
  | none => g

def setTag (g : Graph) (v : Nat) (tag : Tag) : Graph :=
  match g[v]? with
  | some vertex => g.setIfInBounds v { vertex with tag := tag }
  | none => g

structure Numbering where
  graph : Graph
  names : List (List Char × Nat)

mutual

-- Numbers a node and what it holds. What a container holds is known only after it has its number.
def number (s : Numbering) : Node → Numbering × Nat
  | .scalar tag text => ({ s with graph := s.graph.push ⟨tag, .text text⟩ }, s.graph.size)
  | .list tag items =>
      let v := s.graph.size
      let (s, items) := numberItems { s with graph := s.graph.push ⟨tag, .items []⟩ } items
      ({ s with graph := s.graph.setContent v (.items items) }, v)
  | .map tag fields =>
      let v := s.graph.size
      let (s, fields) := numberFields { s with graph := s.graph.push ⟨tag, .fields []⟩ } fields
      ({ s with graph := s.graph.setContent v (.fields fields) }, v)
  | .named name node => number { s with names := (name, s.graph.size) :: s.names } node
  | .alias name => (s, (s.names.lookup name).getD 0)

def numberItems (s : Numbering) : List Node → Numbering × List Nat
  | [] => (s, [])
  | node :: items =>
      let (s, v) := number s node
      let (s, vs) := numberItems s items
      (s, v :: vs)

def numberFields (s : Numbering) : List (Node × Node) → Numbering × List (Nat × Nat)
  | [] => (s, [])
  | (key, value) :: fields =>
      let (s, k) := number s key
      let (s, v) := number s value
      let (s, vs) := numberFields s fields
      (s, (k, v) :: vs)

end

def ofNode (node : Node) : Graph := (number ⟨#[], []⟩ node).1.graph

-- An equals sign as a key is a text.
def settleKey (g : Graph) (key : Nat) : Graph := if g.hasTag .value key then g.setTag key .text else g

def fieldCount (g : Graph) : Nat :=
  g.foldl
    (fun count vertex =>
      match vertex.content with
      | .fields fields => count + fields.length
      | _ => count)
    0

-- Carries out the merge keys of a map. A merge key is removed before the maps that it brings in are
-- settled themselves. So every step has fewer of them before it than the one before, also when a
-- map is merged into itself, and the fuel has to be more than their number.
def settle : (fuel : Nat) → (merged : List (Nat × Nat)) → Graph → (v : Nat) → Except Failure Graph
  | 0, _, _, _ => .error .badYaml
  | fuel + 1, merged, g, v =>
      match ((g.fields? v).getD []).span fun (key, _) => !g.hasTag .merge key with
      | (own, []) =>
          let g := own.foldl (fun g (key, _) => g.settleKey key) g
          .ok (g.setContent v (.fields (merged ++ own)))
      | (before, (_, value) :: after) => do
          let g := g.setContent v (.fields (before ++ after))
          match g[value]?.map Vertex.content with
          | some (.fields _) =>
              let g ← settle fuel [] g value
              settle fuel (merged ++ (g.fields? value).getD []) g v
          | some (.items items) =>
              let (g, parts) ← items.foldlM
                (fun (g, parts) item => do
                  if (g.fields? item).isNone then throw .badYaml
                  let g ← settle fuel [] g item
                  return (g, (g.fields? item).getD [] :: parts))
                (g, [])
              settle fuel (merged ++ parts.flatten) g v
          | _ => .error .badYaml

end Graph

end Triage.Yaml
