import Triage.Datum.Key
import Triage.Yaml.Graph.Data
import Triage.Yaml.Lexer
import Triage.Yaml.Node.Reader
import Triage.Yaml.Number

namespace Triage.Yaml

def objectOf (fields : List (Datum × Datum)) : Datum :=
  .object (fields.foldl (fun object (key, value) => Datum.setField object key value) [])

namespace Node

-- The datum of a scalar. What is not a number has to have a mark.
def plainScalar? (tag : Tag) (text : List Char) : Option Datum :=
  match scalarDatum tag text with
  | .ok d => if d = .real unmarked then none else some d
  | .error _ => none

mutual

def datum? : Node → Option Datum
  | .scalar tag text => plainScalar? tag text
  | .list .list items => Datum.list <$> itemData? items
  | .map .map fields => objectOf <$> fieldData? fields
  | .named _ node => datum? node
  | _ => none

def itemData? : List Node → Option (List Datum)
  | [] => some []
  | node :: items => do return (← datum? node) :: (← itemData? items)

def fieldData? : List (Node × Node) → Option (List (Datum × Datum))
  | [] => some []
  | (key, value) :: fields => do
      let key ← datum? key
      if !key.isKey then none
      return (key, ← datum? value) :: (← fieldData? fields)

end

def toDatum (node : Node) : Except Failure Datum :=
  match node.datum? with
  | some d => .ok d
  | none => (Graph.ofNode node).toDatum

end Node

-- Most documents name nothing and merge nothing. All others are read by way of a graph, which also tells
-- what is wrong with a document.
def read (text : List Char) : Except Failure Datum := do
  match ← Node.ofTokens (← tokensOf text) with
  | none => return .null
  | some node => node.toDatum

end Triage.Yaml
