import ControlPlane.Yaml.Layout
import ControlPlane.Yaml.Node

/-!
# Documents

`document?` reads the tokens of a text as one document.  The grammar is that of the tokens: every
node is told by its first token, and a collection ends with the token that closes it.

`Reader` is the state of reading: the tokens left, the anchors met so far, and the nodes that have
one.  An anchor is known from the start of its node on, also inside the node.
-/

namespace ControlPlane.Yaml

/-- The state of reading nodes. -/
structure Reader where
  tokens : List Token
  /-- What the handles of tags stand for. -/
  handles : List (List Char × List Char)
  /-- The serial numbers of the nodes that have anchors. -/
  anchors : List (List Char × Nat) := []
  /-- The nodes that have anchors and have ended, the last one first. -/
  anchored : List Node := []
  /-- The serial number of the next node. -/
  serial : Nat := 1

/-- A step of reading. -/
abbrev Read (α : Type) := StateT Reader (Except Fault) α

namespace Read

/-- A step that finds the text at fault. -/
def fail {α : Type} (f : Fault) : Read α := throw f

/-- The next token.  Where the tokens end in a fault, that is the fault. -/
def peek : Read Token := do
  match (← get).tokens with
  | [] => fail .malformed
  | .fault f :: _ => fail f
  | t :: _ => return t

/-- The step over a token. -/
def skip : Read Unit := modify fun r => { r with tokens := r.tokens.tail }

/-- The step over a token if it is the next one. -/
def skipIf (t : Token) : Read Bool := do
  if (← peek) = t then do
    skip
    return true
  else return false

/-- The step over a token that has to be the next one. -/
def expect (t : Token) : Read Unit := do
  unless ← skipIf t do fail .malformed

/-- Whether the next token is one of those that leave the node in front of them out. -/
def atOneOf (ts : List Token) : Read Bool := do
  return ts.contains (← peek)

/-! ## anchors and tags -/

/-- An alias for the node with an anchor. -/
def aliased (name : List Char) : Read Node := do
  match (← get).anchors.find? fun a => a.1 == name with
  | some a => return .alias a.2
  | none => fail .malformed

/-- What is written in front of a node. -/
structure Properties where
  anchor : Option (List Char) := none
  tag : Option (List Char) := none

/-- The anchor in front of a node, if there is one. -/
def anchor? : Read (Option (List Char)) := do
  match ← peek with
  | .anchor name => do
    skip
    return some name
  | _ => return none

/-- The tag in front of a node as it is written, if there is one. -/
def tag? : Read (Option (Option (List Char) × List Char)) := do
  match ← peek with
  | .tag handle suffix => do
    skip
    return some (handle, suffix)
  | _ => return none

/-- The full name of a tag. -/
def fullTag (handle : Option (List Char)) (suffix : List Char) : Read (List Char) := do
  match handle with
  | none => return suffix
  | some h =>
    match (← get).handles.find? fun e => e.1 == h with
    | some e => return e.2 ++ suffix
    | none => fail .malformed

/-- The anchor and the tag of a node, in any order. -/
def properties : Read Properties := do
  let first ← anchor?
  let written ← tag?
  let anchor ← if first.isNone && written.isSome then anchor? else pure first
  let tag ← written.mapM fun t => fullTag t.1 t.2
  return { anchor, tag }

/-- A node with a serial number of its own.  Its anchor, which must be a new one, is known from its
start on. -/
def numbered (p : Properties) (content : (serial : Nat) → Read Node) : Read Node := do
  let i := (← get).serial
  modify fun r => { r with serial := i + 1 }
  match p.anchor with
  | none => content i
  | some a => do
    if (← get).anchors.any fun e => e.1 == a then fail .malformed
    modify fun r => { r with anchors := (a, i) :: r.anchors }
    let n ← content i
    modify fun r => { r with anchored := n :: r.anchored }
    return n

/-- The tag that stands for no tag at all. -/
def unspecific : List Char := ['!']

/-- The tag of a scalar. -/
def scalarTag (plain : Bool) (tag : Option (List Char)) (text : List Char) : Tag :=
  match tag with
  | none => if plain then .ofPlain text else .text
  | some t => if t = unspecific then .ofPlain text else .ofUri t

/-- The tag of a collection. -/
def collectionTag (kind : Kind) (tag : Option (List Char)) : Tag :=
  match tag with
  | none => kind.tag
  | some t => if t = unspecific then kind.tag else .ofUri t

/-! ## nodes -/

/-- Where a node stands. -/
inductive Position where
  /-- Inside a flow collection. -/
  | flow
  /-- In a block. -/
  | block
  /-- In a block mapping, where a sequence need not be indented. -/
  | entry
  deriving DecidableEq

/-- A scalar with its properties. -/
def scalar (p : Properties) (plain : Bool) (text : List Char) : Read Node :=
  numbered p fun i => return .scalar i (scalarTag plain p.tag text) text

/-- A sequence with its properties. -/
def listOf (p : Properties) (items : Read (List Node)) : Read Node :=
  numbered p fun i => do return .list i (collectionTag .list p.tag) (← items)

/-- A mapping with its properties. -/
def mapOf (p : Properties) (entries : Read (List (Node × Node))) : Read Node :=
  numbered p fun i => do return .map i (collectionTag .map p.tag) (← entries)

/-- A node, unless one of some tokens follows. -/
def orEmpty (ts : List Token) (node : Read Node) : Read Node := do
  if ← atOneOf ts then return .empty else node

/-- The value of an entry; it may be left out together with its mark. -/
def valueUnless (ts : List Token) (node : Read Node) : Read Node := do
  if ← skipIf .value then orEmpty ts node else return .empty

/-- The comma in front of an entry of a flow collection other than the first one. -/
def comma (first : Bool) : Read Unit := do
  if !first then expect .flowEntry

mutual

/-- A node. -/
def node : (fuel : Nat) → Position → Read Node
  | 0, _ => fail .malformed
  | fuel + 1, position => do
    if let .alias a ← peek then
      skip
      return ← aliased a
    let p ← properties
    let t ← peek
    match t with
    | .scalar plain text => do
      skip
      scalar p plain text
    | .flowSequenceStart => do
      skip
      listOf p (flowItems fuel true)
    | .flowMappingStart => do
      skip
      mapOf p (flowEntries fuel true)
    | _ =>
      if t = .blockEntry ∧ position = .entry then listOf p (plainItems fuel)
      else if t = .blockSequenceStart ∧ position ≠ .flow then do
        skip
        listOf p (blockItems fuel)
      else if t = .blockMappingStart ∧ position ≠ .flow then do
        skip
        mapOf p (blockEntries fuel)
      else if p.anchor.isSome || p.tag.isSome then scalar p true []
      else fail .malformed

/-- The items of a block sequence. -/
def blockItems : (fuel : Nat) → Read (List Node)
  | 0 => fail .malformed
  | fuel + 1 => do
    if ← skipIf .blockEntry then
      let item ← orEmpty [.blockEntry, .blockEnd] (node fuel .block)
      return item :: (← blockItems fuel)
    else do
      expect .blockEnd
      return []

/-- The items of a sequence that is not indented. -/
def plainItems : (fuel : Nat) → Read (List Node)
  | 0 => fail .malformed
  | fuel + 1 => do
    if ← skipIf .blockEntry then
      let item ← orEmpty [.blockEntry, .key, .value, .blockEnd] (node fuel .block)
      return item :: (← plainItems fuel)
    else return []

/-- The entries of a block mapping. -/
def blockEntries : (fuel : Nat) → Read (List (Node × Node))
  | 0 => fail .malformed
  | fuel + 1 => do
    if ← skipIf .key then
      let ends : List Token := [.key, .value, .blockEnd]
      let key ← orEmpty ends (node fuel .entry)
      let value ← valueUnless ends (node fuel .entry)
      return (key, value) :: (← blockEntries fuel)
    else do
      expect .blockEnd
      return []

/-- The items of a flow sequence; an item with a key is a mapping of its own. -/
def flowItems : (fuel : Nat) → (first : Bool) → Read (List Node)
  | 0, _ => fail .malformed
  | fuel + 1, first => do
    if ← skipIf .flowSequenceEnd then return []
    comma first
    if ← skipIf .flowSequenceEnd then return []
    let item ←
      if ← skipIf .key then
        mapOf {} do
          let key ← orEmpty [.value, .flowEntry, .flowSequenceEnd] (node fuel .flow)
          let value ← valueUnless [.flowEntry, .flowSequenceEnd] (node fuel .flow)
          return [(key, value)]
      else node fuel .flow
    return item :: (← flowItems fuel false)

/-- The entries of a flow mapping. -/
def flowEntries : (fuel : Nat) → (first : Bool) → Read (List (Node × Node))
  | 0, _ => fail .malformed
  | fuel + 1, first => do
    if ← skipIf .flowMappingEnd then return []
    comma first
    if ← skipIf .flowMappingEnd then return []
    let entry ←
      if ← skipIf .key then do
        let key ← orEmpty [.value, .flowEntry, .flowMappingEnd] (node fuel .flow)
        let value ← valueUnless [.flowEntry, .flowMappingEnd] (node fuel .flow)
        pure (key, value)
      else do
        let key ← node fuel .flow
        pure (key, .empty)
    return entry :: (← flowEntries fuel false)

end

/-! ## the document -/

/-- The handles that are known without a directive. -/
def standardHandles : List (List Char × List Char) :=
  [(['!'], ['!']), (['!', '!'], Tag.standardStart)]

/-- The directives in front of a document: at most one version, of the first major one, and handles
of tags. -/
def directives : (fuel : Nat) → (versioned : Bool) → Read Unit
  | 0, _ => fail .malformed
  | fuel + 1, versioned => do
    match ← peek with
    | .directive (.version major _) => do
      skip
      if versioned || major ≠ 1 then fail .malformed
      directives fuel true
    | .directive (.tag handle uri) => do
      skip
      if (← get).handles.any fun e => e.1 == handle then fail .malformed
      modify fun r => { r with handles := (handle, uri) :: r.handles }
      directives fuel versioned
    | .directive .other => do
      skip
      directives fuel versioned
    | _ => modify fun r => { r with handles := r.handles ++ standardHandles }

/-- Marks of the ends of documents. -/
def skipEnds : (fuel : Nat) → Read Unit
  | 0 => return ()
  | fuel + 1 => do
    if ← skipIf .documentEnd then skipEnds fuel

/-- The node of a text with one document or none. -/
def document (fuel : Nat) : Read (Option Node) := do
  match ← peek with
  | .streamEnd => return none
  | .directive _ => explicit
  | .documentStart => explicit
  | _ => do
    modify fun r => { r with handles := standardHandles }
    let n ← node fuel .block
    ended
    return some n
where
  /-- A document behind its mark. -/
  explicit : Read (Option Node) := do
    directives fuel false
    expect .documentStart
    let n ←
      match ← peek with
      | .directive _ => pure Node.empty
      | .documentStart => pure Node.empty
      | .documentEnd => pure Node.empty
      | .streamEnd => pure Node.empty
      | _ => node fuel .block
    ended
    return some n
  /-- The end of the only document. -/
  ended : Read Unit := do
    skipEnds fuel
    expect .streamEnd

end Read

/-- The document of a text with one document; none if the text has no document.  Every step takes a
token or goes from a node to its parts. -/
def document? (text : List Char) : Except Fault (Option Document) := do
  let ts := tokens text
  let (root, r) ← (Read.document (2 * ts.length + 4)).run { tokens := ts, handles := [] }
  return root.map fun n => { root := n, anchored := r.anchored.reverse, size := r.serial }

end ControlPlane.Yaml
