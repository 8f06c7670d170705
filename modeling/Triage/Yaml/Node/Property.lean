import Triage.Yaml.Resolve
import Triage.Yaml.Cell

namespace Triage.Yaml.Node

structure Reading where
  tokens : List Token
  names : List (List Char)

def stuck (tokens : List Token) : Except Failure α :=
  match tokens with
  | .broken failure :: _ => .error failure
  | _ => .error .badYaml

abbrev Handles := List (List Char × List Char)

def standardHandles : Handles := [(['!'], ['!']), (['!', '!'], Tag.standard.toList)]

structure Properties where
  tag : Option (List Char)
  anchor : Option (List Char)

def fullTag (handles : Handles) : Option (List Char) → List Char → Except Failure (List Char)
  | none, suffix => .ok suffix
  | some handle, suffix =>
      match handles.lookup handle with
      | some start => .ok (start ++ suffix)
      | none => .error .badYaml

-- Takes a tag and an anchor, in either order, each at most once. A handle is looked up when both
-- have been looked for.
def takeProperties (handles : Handles) (r : Reading) : Except Failure (Properties × Reading) :=
  match r.tokens with
  | .anchor name :: .tag handle suffix :: tokens | .tag handle suffix :: .anchor name :: tokens => do
      return (⟨some (← fullTag handles handle suffix), some name⟩, { r with tokens := tokens })
  | .anchor name :: tokens => .ok (⟨none, some name⟩, { r with tokens := tokens })
  | .tag _ _ :: .broken failure :: _ => .error failure
  | .tag handle suffix :: tokens => do
      return (⟨some (← fullTag handles handle suffix), none⟩, { r with tokens := tokens })
  | _ => .ok (⟨none, none⟩, r)

def Properties.named (p : Properties) : Option (List Char) := p.tag.filter (· != ['!'])

def Properties.tagOr (p : Properties) (usual : Tag) : Tag := (p.named.map Tag.ofName).getD usual

-- The tag of a scalar. Without a tag a plain scalar is resolved and another one is a text.
def Properties.scalarTag (p : Properties) (text : List Char) (isPlain : Bool) : Tag :=
  p.tagOr (if isPlain || p.tag.isSome then resolve text else .text)

def Properties.around (p : Properties) (node : Node) : Node :=
  match p.anchor with
  | some name => .named name node
  | none => node

def Reading.name (r : Reading) (p : Properties) : Except Failure Reading :=
  match p.anchor with
  | some name => if r.names.contains name then stuck r.tokens else .ok { r with names := name :: r.names }
  | none => .ok r

def Reading.next (r : Reading) (tokens : List Token) : Reading := { r with tokens := tokens }

def Reading.isBefore (r : Reading) (tokens : List Token) : Bool :=
  match r.tokens with
  | token :: _ => tokens.contains token
  | [] => false

end Triage.Yaml.Node
