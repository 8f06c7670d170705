import Triage.Yaml.Node.Property

namespace Triage.Yaml.Node

-- Where a node stands: in brackets, in a block, or as a key or value of a block, where a list may
-- stand no further in than the key.
inductive Place where
  | bracket
  | block
  | field
  deriving DecidableEq

mutual

def take (handles : Handles) : (fuel : Nat) → Place → Reading → Except Failure (Node × Reading)
  | 0, _, _ => .error .badYaml
  | fuel + 1, place, r =>
      match r.tokens with
      | .alias name :: tokens =>
          if r.names.contains name then .ok (.alias name, r.next tokens) else .error .badYaml
      | _ => do
          let (p, r) ← takeProperties handles r
          let r ← r.name p
          let listTag := p.tagOr .list
          let mapTag := p.tagOr .map
          match r.tokens with
          | .scalar text isPlain :: tokens =>
              return (p.around (.scalar (p.scalarTag text isPlain) text), r.next tokens)
          | .flowListStart :: tokens =>
              let (items, r) ← takeFlowItems handles fuel true (r.next tokens)
              return (p.around (.list listTag items), r)
          | .flowMapStart :: tokens =>
              let (fields, r) ← takeFlowFields handles fuel true (r.next tokens)
              return (p.around (.map mapTag fields), r)
          | token :: tokens =>
              if token = .item ∧ place = .field then
                let (items, r) ← takeLooseItems handles fuel r
                return (p.around (.list listTag items), r)
              else if token = .listStart ∧ place ≠ .bracket then
                let (items, r) ← takeItems handles fuel (r.next tokens)
                return (p.around (.list listTag items), r)
              else if token = .mapStart ∧ place ≠ .bracket then
                let (fields, r) ← takeFields handles fuel (r.next tokens)
                return (p.around (.map mapTag fields), r)
              else absent p r
          | [] => absent p r

def absent (p : Properties) (r : Reading) : Except Failure (Node × Reading) :=
  if p.tag.isNone && p.anchor.isNone then stuck r.tokens
  else .ok (p.around (.scalar (p.tagOr (resolve [])) []), r)

def takeOptional (handles : Handles) : (fuel : Nat) → Place → List Token → Reading →
    Except Failure (Node × Reading)
  | 0, _, _, _ => .error .badYaml
  | fuel + 1, place, ends, r => if r.isBefore ends then .ok (empty, r) else take handles fuel place r

def takeAfterKey (handles : Handles) : (fuel : Nat) → Place → List Token → Reading →
    Except Failure (Node × Reading)
  | 0, _, _, _ => .error .badYaml
  | fuel + 1, place, ends, r =>
      match r.tokens with
      | .value :: tokens => takeOptional handles fuel place ends (r.next tokens)
      | _ => .ok (empty, r)

def takeItems (handles : Handles) : (fuel : Nat) → Reading → Except Failure (List Node × Reading)
  | 0, _ => .error .badYaml
  | fuel + 1, r =>
      match r.tokens with
      | .item :: tokens => do
          let (node, r) ← takeOptional handles fuel .block [.item, .blockEnd] (r.next tokens)
          let (items, r) ← takeItems handles fuel r
          return (node :: items, r)
      | .blockEnd :: tokens => .ok ([], r.next tokens)
      | _ => stuck r.tokens

def takeLooseItems (handles : Handles) : (fuel : Nat) → Reading → Except Failure (List Node × Reading)
  | 0, _ => .error .badYaml
  | fuel + 1, r =>
      match r.tokens with
      | .item :: tokens => do
          let (node, r) ← takeOptional handles fuel .block [.item, .key, .value, .blockEnd] (r.next tokens)
          let (items, r) ← takeLooseItems handles fuel r
          return (node :: items, r)
      | _ => .ok ([], r)

def takeFields (handles : Handles) : (fuel : Nat) → Reading →
    Except Failure (List (Node × Node) × Reading)
  | 0, _ => .error .badYaml
  | fuel + 1, r =>
      match r.tokens with
      | .key :: tokens => do
          let (key, r) ← takeOptional handles fuel .field [.key, .value, .blockEnd] (r.next tokens)
          let (value, r) ← takeAfterKey handles fuel .field [.key, .value, .blockEnd] r
          let (fields, r) ← takeFields handles fuel r
          return ((key, value) :: fields, r)
      | .blockEnd :: tokens => .ok ([], r.next tokens)
      | _ => stuck r.tokens

def takeFlowItems (handles : Handles) : (fuel : Nat) → (first : Bool) → Reading →
    Except Failure (List Node × Reading)
  | 0, _, _ => .error .badYaml
  | fuel + 1, first, r =>
      match r.tokens with
      | .flowListEnd :: tokens => .ok ([], r.next tokens)
      | _ => do
          let r ← separated first r
          match r.tokens with
          | .flowListEnd :: tokens => return ([], r.next tokens)
          | .key :: tokens =>
              let (key, r) ← takeOptional handles fuel .bracket [.value, .comma, .flowListEnd] (r.next tokens)
              let (value, r) ← takeAfterKey handles fuel .bracket [.comma, .flowListEnd] r
              let (items, r) ← takeFlowItems handles fuel false r
              return (.map .map [(key, value)] :: items, r)
          | _ =>
              let (node, r) ← take handles fuel .bracket r
              let (items, r) ← takeFlowItems handles fuel false r
              return (node :: items, r)

def takeFlowFields (handles : Handles) : (fuel : Nat) → (first : Bool) → Reading →
    Except Failure (List (Node × Node) × Reading)
  | 0, _, _ => .error .badYaml
  | fuel + 1, first, r =>
      match r.tokens with
      | .flowMapEnd :: tokens => .ok ([], r.next tokens)
      | _ => do
          let r ← separated first r
          match r.tokens with
          | .flowMapEnd :: tokens => return ([], r.next tokens)
          | .key :: tokens =>
              let (key, r) ← takeOptional handles fuel .bracket [.value, .comma, .flowMapEnd] (r.next tokens)
              let (value, r) ← takeAfterKey handles fuel .bracket [.comma, .flowMapEnd] r
              let (fields, r) ← takeFlowFields handles fuel false r
              return ((key, value) :: fields, r)
          | _ =>
              let (key, r) ← take handles fuel .bracket r
              let (fields, r) ← takeFlowFields handles fuel false r
              return ((key, empty) :: fields, r)

def separated (first : Bool) (r : Reading) : Except Failure Reading :=
  if first then .ok r
  else
    match r.tokens with
    | .comma :: tokens => .ok (r.next tokens)
    | _ => stuck r.tokens

end

def takeDirectives (versioned : Bool) (handles : Handles) : List Token → Except Failure (Handles × List Token)
  | .version major :: tokens =>
      if versioned || major != 1 then .error .badYaml else takeDirectives true handles tokens
  | .tagHandle handle start :: tokens =>
      if (handles.lookup handle).isSome then .error .badYaml
      else takeDirectives versioned ((handle, start) :: handles) tokens
  | .ignoredDirective :: tokens => takeDirectives versioned handles tokens
  | tokens => .ok (handles, tokens)

-- Every second call takes a token.
def enough (tokens : List Token) : Nat := 4 * tokens.length + 4

def isDirective : Token → Bool
  | .version _ | .tagHandle .. | .ignoredDirective => true
  | _ => false

def startsMarked : List Token → Bool
  | [] => false
  | token :: _ => isDirective token || token = .documentStart

-- After the document nothing but end marks may stand. What would start another one is looked at
-- first.
def finish (tokens : List Token) : Except Failure Unit :=
  match tokens.dropWhile (· = .documentEnd) with
  | [] => .ok ()
  | tokens => do
      let (_, rest) ← takeDirectives false [] tokens
      stuck rest

def whole (handles : Handles) (tokens : List Token) : Except Failure Node := do
  let (node, r) ← take handles (enough tokens) .block ⟨tokens, []⟩
  finish r.tokens
  return node

def content (handles : Handles) (tokens : List Token) : Except Failure Node :=
  if tokens.isEmpty || tokens.head? = some .documentEnd || startsMarked tokens then do
    finish tokens
    return empty
  else whole handles tokens

def ofTokens (tokens : List Token) : Except Failure (Option Node) :=
  if tokens.isEmpty then .ok none
  else if startsMarked tokens then do
    let (handles, rest) ← takeDirectives false [] tokens
    match rest with
    | .documentStart :: rest => some <$> content (handles ++ standardHandles) rest
    | _ => stuck rest
  else some <$> whole standardHandles tokens

end Triage.Yaml.Node
