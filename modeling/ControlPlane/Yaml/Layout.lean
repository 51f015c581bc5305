import ControlPlane.Yaml.Lexeme

/-!
# Layout

The tokens of a text.  Lexemes become tokens one by one; the marks that no lexeme stands for follow
from the layout: collections begin and end with the columns of their entries, and a node turns out
to be a key only when a colon follows it on the same line, so that its `Token.key` is put in front
of it afterwards.

A text that breaks the rules still has tokens, the last of which says what is wrong.  Because a node
that may be a key is held back until that is settled, the fault takes the place of the first node
held back.
-/

namespace ControlPlane.Yaml

/-- A node that a colon may turn into a key. -/
structure PossibleKey where
  /-- The number of tokens in front of the node. -/
  before : Nat
  /-- Whether nothing else can stand at its place. -/
  required : Bool
  index : Nat
  line : Nat
  column : Nat
  deriving DecidableEq, Repr

/-- The longest distance between the start of a key and its colon. -/
def keyReach : Nat := 1024

/-- Whether a colon at the cursor is too late for a key: it is on another line or too far away. -/
def PossibleKey.isStale (k : PossibleKey) (c : Cursor) : Bool :=
  k.line != c.line || keyReach < c.index - k.index

/-- How far the tokens of a text have been found. -/
structure Layout where
  cursor : Cursor
  /-- The tokens so far, the last one first. -/
  tokens : List Token := []
  /-- The columns of the open block collections, the innermost first. -/
  indents : List Nat := []
  /-- The possible key of the innermost flow collection, or of the block around all of them. -/
  key : Option PossibleKey := none
  /-- The possible keys of the collections around that. -/
  outerKeys : List (Option PossibleKey) := []
  /-- Whether a node at the cursor may be a key. -/
  keyAllowed : Bool := true

namespace Layout

/-- Whether a flow collection is open. -/
def inFlow (s : Layout) : Bool := !s.outerKeys.isEmpty

/-- The column of the innermost block collection; outside of all it is left of the first one. -/
def indent (s : Layout) : Int :=
  match s.indents with
  | [] => -1
  | column :: _ => column

/-- The layout with a token more. -/
def emit (t : Token) (s : Layout) : Layout := { s with tokens := t :: s.tokens }

/-- The layout with a token put behind the first `before` ones. -/
def emitAt (before : Nat) (t : Token) (s : Layout) : Layout :=
  let behind := s.tokens.length - before
  { s with tokens := s.tokens.take behind ++ t :: s.tokens.drop behind }

/-- The layout with the cursor moved behind a token. -/
def advance (t : Token) (c : Cursor) (s : Layout) : Layout := { s.emit t with cursor := c }

/-! ## possible keys -/

/-- A place without its possible key, which must not be a required one. -/
def withoutKey (key : Option PossibleKey) : Except Fault (Option PossibleKey) :=
  if key.any (·.required) then .error .malformed else .ok none

/-- The layout without the possible key of the innermost collection. -/
def dropKey (s : Layout) : Except Fault Layout := do
  return { s with key := ← withoutKey s.key }

/-- A place without its possible key if that is stale. -/
def withoutStale (c : Cursor) (key : Option PossibleKey) : Except Fault (Option PossibleKey) :=
  if key.any (·.isStale c) then withoutKey key else .ok key

/-- The layout without stale keys. -/
def dropStaleKeys (s : Layout) : Except Fault Layout := do
  let outerKeys ← s.outerKeys.mapM (withoutStale s.cursor)
  let key ← withoutStale s.cursor s.key
  return { s with key, outerKeys }

/-- The layout with the node at the cursor as a possible key, if it may be one. -/
def markKey (s : Layout) : Except Fault Layout := do
  if s.keyAllowed then
    let s ← s.dropKey
    let key : PossibleKey :=
      { before := s.tokens.length
        required := !s.inFlow && s.indent == s.cursor.column
        index := s.cursor.index, line := s.cursor.line, column := s.cursor.column }
    return { s with key := some key }
  else return s

/-- The number of tokens that are settled: those in front of the first possible key. -/
def settled (s : Layout) : Nat :=
  (s.key :: s.outerKeys).foldl
    (fun n key => match key with
      | some k => min n k.before
      | none => n)
    s.tokens.length

/-! ## block collections -/

/-- The layout with the block collections closed that a column lies in front of. -/
def closeBlocks (column : Int) (s : Layout) : Layout :=
  if s.inFlow then s
  else
    let closed := (s.indents.takeWhile fun (i : Nat) => column < i).length
    { s with
      indents := s.indents.drop closed
      tokens := List.replicate closed .blockEnd ++ s.tokens }

/-- Whether a column is deeper than all open block collections. -/
def opensBlock (column : Nat) (s : Layout) : Bool := s.indent < column

/-- The layout with a block collection opened at the cursor unless one is open there. -/
def openBlock (start : Token) (s : Layout) : Layout :=
  if s.opensBlock s.cursor.column then
    { s.emit start with indents := s.cursor.column :: s.indents }
  else s

/-! ## the place of the next token -/

/-- The layout behind spaces, comments and line breaks.  A new line of a block may start with a
key. -/
def skipGaps : (fuel : Nat) → Layout → Layout
  | 0, s => s
  | fuel + 1, s =>
    let c := s.cursor.skipSpaces.skipComment
    if c.char?.any endsLine then
      skipGaps fuel { s with cursor := c.lineBreak.2, keyAllowed := s.keyAllowed || !s.inFlow }
    else { s with cursor := c }

/-- The layout in front of the next token; a byte order mark at the start of the text is no
character of it. -/
def toNextToken (s : Layout) : Layout :=
  let c := s.cursor
  let c := if c.index = 0 ∧ c.char?.any (fun x => x.toNat == 0xFEFF) then c.next else c
  skipGaps (c.rest.length + 1) { s with cursor := c }

/-! ## single tokens -/

/-- The end of the text. -/
def atEnd (s : Layout) : Except Fault Layout := do
  let s ← (s.closeBlocks (-1)).dropKey
  return s.emit .streamEnd

/-- A token at the start of a line that belongs to no node. -/
def betweenDocuments (read : Cursor → Except Fault (Token × Cursor)) (s : Layout) :
    Except Fault Layout := do
  let s ← (s.closeBlocks (-1)).dropKey
  let (t, c) ← read s.cursor
  return { s.advance t c with keyAllowed := false }

/-- The bracket that opens a flow collection. -/
def openFlow (t : Token) (s : Layout) : Except Fault Layout := do
  let s ← s.markKey
  return { s.advance t s.cursor.next with
    key := none, outerKeys := s.key :: s.outerKeys, keyAllowed := true }

/-- The bracket that closes a flow collection. -/
def closeFlow (t : Token) (s : Layout) : Except Fault Layout := do
  let s ← s.dropKey
  match s.outerKeys with
  | [] => .error .malformed
  | key :: outerKeys =>
    return { s.advance t s.cursor.next with key, outerKeys, keyAllowed := false }

/-- The comma of a flow collection. -/
def flowEntry (s : Layout) : Except Fault Layout := do
  let s ← s.dropKey
  return { s.advance .flowEntry s.cursor.next with keyAllowed := true }

/-- The hyphen of a block sequence. -/
def blockEntry (s : Layout) : Except Fault Layout := do
  if !s.inFlow && !s.keyAllowed then throw Fault.malformed
  let s := if s.inFlow then s else s.openBlock .blockSequenceStart
  let s ← s.dropKey
  return { s.advance .blockEntry s.cursor.next with keyAllowed := true }

/-- The question mark in front of a key. -/
def explicitKey (s : Layout) : Except Fault Layout := do
  if !s.inFlow && !s.keyAllowed then throw Fault.malformed
  let s := if s.inFlow then s else s.openBlock .blockMappingStart
  let s ← s.dropKey
  return { s.advance .key s.cursor.next with keyAllowed := !s.inFlow }

/-- The colon behind a node that turns out to be a key. -/
def valueOf (k : PossibleKey) (s : Layout) : Layout :=
  let s := { s.emitAt k.before .key with key := none }
  let s :=
    if !s.inFlow && s.opensBlock k.column then
      { s.emitAt k.before .blockMappingStart with indents := k.column :: s.indents }
    else s
  { s.advance .value s.cursor.next with keyAllowed := false }

/-- A colon. -/
def value (s : Layout) : Except Fault Layout :=
  match s.key with
  | some k => .ok (s.valueOf k)
  | none =>
    if !s.inFlow && !s.keyAllowed then .error .malformed
    else
      let s := if s.inFlow then s else s.openBlock .blockMappingStart
      .ok { s.advance .value s.cursor.next with keyAllowed := !s.inFlow }

/-- A lexeme that may be a key. -/
def node (read : Cursor → Except Fault (Token × Cursor)) (s : Layout) : Except Fault Layout := do
  let s ← s.markKey
  let (t, c) ← read s.cursor
  return { s.advance t c with keyAllowed := false }

/-- A block scalar, which is no key. -/
def block (folded : Bool) (s : Layout) : Except Fault Layout := do
  let s ← s.dropKey
  let (text, c) ← blockScalar folded s.indent s.cursor
  return { s.advance (.scalar false text) c with keyAllowed := true }

/-- A plain scalar. -/
def plain (s : Layout) : Except Fault Layout := do
  let s ← s.markKey
  let ((text, newLine), c) := plainScalar s.inFlow s.indent s.cursor
  return { s.advance (.scalar true text) c with keyAllowed := newLine }

/-- Whether a plain scalar can start with a character, in front of another. -/
def startsPlain (inFlow : Bool) (x : Char) (after : Option Char) : Bool :=
  !(isBlankChar x || endsLine x ||
      "-?:,[]\x7b\x7d#&*!|>'\"%@\x60".toList.contains x) ||
    (!atGap after && (x == '-' || (!inFlow && (x == '?' || x == ':'))))

/-- The token that starts with a character. -/
def tokenAt (x : Char) (s : Layout) : Except Fault Layout :=
  let c := s.cursor
  let after := c.charAt? 1
  let separates := c.column == 0
  if separates && x == '%' then s.betweenDocuments fun c => (directive c).map (·.map .directive id)
  else if separates && c.isAtSeparator '-' then
    s.betweenDocuments fun c => .ok (.documentStart, c.skip 3)
  else if separates && c.isAtSeparator '.' then
    s.betweenDocuments fun c => .ok (.documentEnd, c.skip 3)
  else if x == '[' then s.openFlow .flowSequenceStart
  else if x == '\x7b' then s.openFlow .flowMappingStart
  else if x == ']' then s.closeFlow .flowSequenceEnd
  else if x == '\x7d' then s.closeFlow .flowMappingEnd
  else if x == ',' then s.flowEntry
  else if x == '-' && atGap after then s.blockEntry
  else if x == '?' && (s.inFlow || atGap after) then s.explicitKey
  else if x == ':' && (s.inFlow || atGap after) then s.value
  else if x == '*' then s.node fun c => (anchorName c).map (·.map .alias id)
  else if x == '&' then s.node fun c => (anchorName c).map (·.map .anchor id)
  else if x == '!' then s.node fun c => (tag c).map (·.map (fun t => .tag t.1 t.2) id)
  else if x == '|' && !s.inFlow then s.block false
  else if x == '>' && !s.inFlow then s.block true
  else if x == '\'' then s.node fun c => (quotedScalar false c).map (·.map (.scalar false) id)
  else if x == '"' then s.node fun c => (quotedScalar true c).map (·.map (.scalar false) id)
  else if startsPlain s.inFlow x after then s.plain
  else .error .malformed

/-- The layout with the next token; none if the text ends there. -/
def step (s : Layout) : Except Fault (Layout × Bool) := do
  let s ← s.toNextToken.dropStaleKeys
  let s := s.closeBlocks s.cursor.column
  match s.cursor.char? with
  | none => return (← s.atEnd, true)
  | some x => return (← s.tokenAt x, false)

/-- The tokens of a layout whose text goes on with a fault. -/
def endingIn (f : Fault) (s : Layout) : List Token :=
  s.tokens.reverse.take s.settled ++ [.fault f]

/-- The tokens of a text from a place on; every round but the last one passes a character. -/
def complete : (fuel : Nat) → Layout → List Token
  | 0, s => s.endingIn .malformed
  | fuel + 1, s =>
    match s.dropStaleKeys with
    | .error f => s.endingIn f
    | .ok s =>
      match s.step with
      | .error f => s.endingIn f
      | .ok (t, true) => t.tokens.reverse
      | .ok (t, false) => complete fuel t

end Layout

/-- The tokens of a text. -/
def tokens (text : List Char) : List Token :=
  Layout.complete (text.length + 1) { cursor := .start text }

end ControlPlane.Yaml
