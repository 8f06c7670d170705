import Triage.Yaml.Property

namespace Triage.Yaml

structure PendingKey where
  place : Nat
  required : Bool
  line : Nat
  column : Nat
  index : Nat

-- The state between two tokens. Tokens are held latest first. `keys` has an entry for every open
-- bracket, innermost first, and a last one for the blocks around them. `indents` holds the columns
-- of the open blocks, innermost first.
structure Lexer where
  rest : List Cell
  tokens : List Token
  keys : List (Option PendingKey)
  indents : List Nat
  keyAllowed : Bool

namespace Lexer

def start (cells : List Cell) : Lexer := ⟨cells, [], [none], [], true⟩

def inFlow (s : Lexer) : Bool := 1 < s.keys.length

def column (s : Lexer) : Nat := columnOf s.rest

def push (s : Lexer) (token : Token) : Lexer := { s with tokens := token :: s.tokens }

def skip (s : Lexer) (count : Nat) : Lexer := { s with rest := s.rest.drop count }

def putAt (place : Nat) (new tokens : List Token) : List Token :=
  tokens.take (tokens.length - place) ++ new ++ tokens.drop (tokens.length - place)

def toNextToken (cells : List Cell) : Bool × List Cell :=
  let rest := afterSpaces cells
  let rest := if peek rest = '#' then rest.dropWhile fun c => !isBreakOrEnd c.char else rest
  if _more : isBreak (peek rest) = true then (true, (toNextToken (takeBreak rest).2).2) else (false, rest)
termination_by cells.length
decreasing_by
  have spaces := afterSpaces_length cells
  have comment : (if peek (afterSpaces cells) = '#' then
      (afterSpaces cells).dropWhile fun c => !isBreakOrEnd c.char else afterSpaces cells).length ≤
        (afterSpaces cells).length := by
    split
    · exact List.Sublist.length_le (List.dropWhile_sublist _)
    · exact Nat.le_refl _
  exact Nat.lt_of_lt_of_le (takeBreak_shorter _more) (Nat.le_trans comment spaces)

def keyLimit : Nat := 1024

def isStale (cells : List Cell) (key : PendingKey) : Bool :=
  match cells with
  | [] => true
  | c :: _ => key.line != c.line || key.index + keyLimit < c.index

def dropStale (s : Lexer) : Except Failure Lexer :=
  if s.keys.any fun key => key.any fun k => k.required && isStale s.rest k then .error .badYaml
  else .ok { s with keys := s.keys.map (·.filter fun k => !isStale s.rest k) }

def unwind (s : Lexer) (column : Option Nat) : Lexer :=
  if s.inFlow then s
  else
    let kept := s.indents.dropWhile fun indent => column.all (· < indent)
    { s with
      indents := kept
      tokens := List.replicate (s.indents.length - kept.length) .blockEnd ++ s.tokens }

def opensBlock (s : Lexer) (column : Nat) : Bool := s.indents.head?.all (· < column)

def openBlock (s : Lexer) (opening : Token) : Lexer :=
  if s.opensBlock s.column then { s.push opening with indents := s.column :: s.indents } else s

def dropKey (s : Lexer) : Except Failure Lexer :=
  match s.keys with
  | some key :: keys => if key.required then .error .badYaml else .ok { s with keys := none :: keys }
  | _ => .ok s

def noteKey (s : Lexer) : Except Failure Lexer :=
  if s.keyAllowed then do
    let s ← s.dropKey
    match s.rest with
    | [] => return s
    | c :: _ =>
        let required := !s.inFlow && s.indents.head? == some c.column
        let key : PendingKey := ⟨s.tokens.length, required, c.line, c.column, c.index⟩
        return { s with keys := some key :: s.keys.drop 1 }
  else .ok s

def endBlocks (s : Lexer) : Except Failure Lexer := do
  let s ← (s.unwind none).dropKey
  return { s with keyAllowed := false }

def openBracket (s : Lexer) (opening : Token) : Except Failure Lexer := do
  let s ← s.noteKey
  return { (s.skip 1).push opening with keys := none :: s.keys, keyAllowed := true }

def closeBracket (s : Lexer) (closing : Token) : Except Failure Lexer := do
  if !s.inFlow then throw .badYaml
  let s ← s.dropKey
  return { (s.skip 1).push closing with keys := s.keys.drop 1, keyAllowed := false }

def comma (s : Lexer) : Except Failure Lexer := do
  let s ← s.dropKey
  return { (s.skip 1).push .comma with keyAllowed := true }

def marked (s : Lexer) (opening token : Token) (keyAllowed : Bool) : Except Failure Lexer := do
  if !s.inFlow && !s.keyAllowed then throw .badYaml
  let opened := if s.inFlow then s else s.openBlock opening
  let s ← opened.dropKey
  return { (s.skip 1).push token with keyAllowed := keyAllowed }

def colon (s : Lexer) : Except Failure Lexer :=
  match s.keys with
  | some key :: keys =>
      let opens := !s.inFlow && s.opensBlock key.column
      let new := if opens then [.key, .mapStart] else [.key]
      .ok { s with
        rest := s.rest.drop 1
        tokens := .value :: putAt key.place new s.tokens
        keys := none :: keys
        indents := if opens then key.column :: s.indents else s.indents
        keyAllowed := false }
  | _ => s.marked .mapStart .value (!s.inFlow)

def word (s : Lexer) (take : List Cell → Except Failure (Token × List Cell)) : Except Failure Lexer := do
  let s ← s.noteKey
  let (token, rest) ← take s.rest
  return { s with rest := rest, tokens := token :: s.tokens, keyAllowed := false }

def plain (s : Lexer) : Except Failure Lexer := do
  let s ← s.noteKey
  let indent := s.indents.head?.elim 0 (· + 1)
  let (text, broken, rest) := takePlain s.inFlow indent s.rest
  return { s with rest := rest, tokens := .scalar text true :: s.tokens, keyAllowed := broken }

def block (s : Lexer) (folded : Bool) : Except Failure Lexer := do
  let s ← s.dropKey
  let least := max 1 (s.indents.head?.elim 0 (· + 1))
  let (text, rest) ← takeBlock folded least (s.rest.drop 1)
  return { s with rest := rest, tokens := .scalar text false :: s.tokens, keyAllowed := true }

def takeScalar (take : List Cell → Except Failure (List Char × List Cell)) (cells : List Cell) :
    Except Failure (Token × List Cell) :=
  (take (cells.drop 1)).map fun (text, rest) => (.scalar text false, rest)

def takeNamed (make : List Char → Token) (cells : List Cell) : Except Failure (Token × List Cell) :=
  (takeName (cells.drop 1)).map fun (name, rest) => (make name, rest)

def indicators : List Char :=
  ['-', '?', ':', ',', '[', ']', '{', '}', '#', '&', '*', '!', '|', '>', '\x27', '"', '%', '@', '\x60']

def startsPlain (s : Lexer) : Bool :=
  let c := peek s.rest
  !(isBlankCell c || indicators.contains c) ||
    (!isBlankCell (peekNext s.rest) && (c = '-' || (!s.inFlow && (c = '?' || c = ':'))))

def token? (s : Lexer) : Except Failure (Option Lexer) :=
  let c := peek s.rest
  let loose := isBlankCell (peekNext s.rest)
  if c = endMark then .ok none
  else if c = '%' && s.column == 0 then do
    let s ← s.endBlocks
    let (token, rest) ← takeDirective (s.rest.drop 1)
    return some ({ s with rest := rest }.push token)
  else if s.column == 0 && isDocumentMark '-' s.rest then do
    return some (((← s.endBlocks).skip 3).push .documentStart)
  else if s.column == 0 && isDocumentMark '.' s.rest then do
    return some (((← s.endBlocks).skip 3).push .documentEnd)
  else some <$>
    if c = '[' then s.openBracket .flowListStart
    else if c = '{' then s.openBracket .flowMapStart
    else if c = ']' then s.closeBracket .flowListEnd
    else if c = '}' then s.closeBracket .flowMapEnd
    else if c = ',' then s.comma
    else if c = '-' && loose then s.marked .listStart .item true
    else if c = '?' && (s.inFlow || loose) then s.marked .mapStart .key (!s.inFlow)
    else if c = ':' && (s.inFlow || loose) then s.colon
    else if c = '*' then s.word (takeNamed .alias)
    else if c = '&' then s.word (takeNamed .anchor)
    else if c = '!' then s.word takeTag
    else if c = '|' && !s.inFlow then s.block false
    else if c = '>' && !s.inFlow then s.block true
    else if c = '\x27' then s.word (takeScalar takeSingle)
    else if c = '"' then s.word (takeScalar takeDouble)
    else if s.startsPlain then s.plain
    else .error .badYaml

-- The state before the next token: blanks are passed, words that can not be keys any more are given
-- up, and the blocks that end here are closed.
def approach (s : Lexer) : Except Failure Lexer := do
  let (broken, rest) := toNextToken s.rest
  let s ← { s with rest := rest, keyAllowed := s.keyAllowed || (broken && !s.inFlow) }.dropStale
  return s.unwind (some s.column)

-- How many tokens are in no doubt: what follows them does not change a word that can not be a key.
def settled (s : Lexer) : Nat :=
  (s.keys.filterMap fun key => (key.filter fun k => !isStale s.rest k).map PendingKey.place).foldl min
    s.tokens.length

def brokenOff (s : Lexer) (failure : Failure) : List Token :=
  s.tokens.reverse.take s.settled ++ [.broken failure]

-- One token after another. Every token takes a character at least, so that the fuel suffices.
def run : (fuel : Nat) → Lexer → List Token
  | 0, s => s.brokenOff .badYaml
  | fuel + 1, s =>
      let next := do
        let s ← s.approach
        match ← s.token? with
        | some next => return (next, false)
        | none => return (← s.endBlocks, true)
      match next with
      | .error failure => s.brokenOff failure
      | .ok (next, ended) => if ended then next.tokens.reverse else run fuel next

end Lexer

def tokensOf (text : List Char) : Except Failure (List Token) := do
  let cells ← cellsOf text
  return Lexer.run (cells.length + 1) (.start cells)

end Triage.Yaml
