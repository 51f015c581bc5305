import ControlPlane.Yaml.Document
import ControlPlane.Yaml.Typed

/-!
# Content

The configuration value that a document stands for.  Tags of collections other than the usual ones
are sets, ordered mappings and lists of pairs; mappings are merged into others under the key `<<`.

Of several faults in one document the one nearest to the root counts, and of those the first one.
The order matters for more: when the content of a mapping is looked at, the mapping settles, which
means that its merges are carried out and its keys `=` become texts.  These nodes may stand
elsewhere too, by an alias, and what they are there depends on whether they have settled before.  So
a node becomes a value and the steps that looking at it takes (`Built`), and `Step.firstFault?` goes
through the steps of a document in order.

A collection inside itself has no value that could be written down.  There it is a copy of itself
that is cut off (`Built.hollow`) where it would stand once more.
-/

namespace ControlPlane.Yaml

/-! ## steps -/

/-- What is done when a node is looked at.  Nodes are told by their serial numbers. -/
inductive Step where
  | fault (f : Fault)
  /-- Nodes settle. -/
  | settles (nodes : List Nat)
  /-- The node is malformed unless it has settled. -/
  | needs (node : Nat)
  /-- A mapping is read as a scalar by way of keys `=`, and is malformed if one of them has settled;
  what was read once is not read again. -/
  | reads (node : Nat) (keys : List Nat)
  /-- The content of a collection is to be looked at, unless it has been: after all that is to be
  looked at already. -/
  | content (node : Nat) (steps : List Step)
  /-- The node that an alias stands for is looked at, unless it has been. -/
  | alias (node : Nat)
  deriving Repr

namespace Step

mutual
/-- The number of steps that a step can lead to without aliases. -/
def size : Step → Nat
  | .content _ steps => sizeOfAll steps + 2
  | _ => 1
/-- The number of steps that steps can lead to without aliases. -/
def sizeOfAll : List Step → Nat
  | [] => 0
  | s :: ss => s.size + sizeOfAll ss
end

/-- The fault that counts among steps in order, given the steps of the nodes that aliases stand for,
the nodes that have settled, those that have been looked at, and the contents that are to be looked
at when the steps have been done, the last one first. -/
def firstFault? (known : Nat → List Step) :
    (fuel : Nat) → (settled seen : List Nat) → (later : List (List Step)) → List Step → Option Fault
  | 0, _, _, _, _ => none
  | fuel + 1, settled, seen, later, [] =>
    if later.isEmpty then none else firstFault? known fuel settled seen [] later.reverse.flatten
  | fuel + 1, settled, seen, later, step :: rest =>
    match step with
    | .fault f => some f
    | .settles nodes => firstFault? known fuel (nodes ++ settled) seen later rest
    | .needs node =>
      if settled.contains node then firstFault? known fuel settled seen later rest
      else some .malformed
    | .reads node keys =>
      if seen.contains node then firstFault? known fuel settled seen later rest
      else if keys.any settled.contains then some .malformed
      else firstFault? known fuel settled (node :: seen) later rest
    | .content node steps =>
      if seen.contains node then firstFault? known fuel settled seen later rest
      else firstFault? known fuel settled (node :: seen) (steps :: later) rest
    | .alias node =>
      if seen.contains node then firstFault? known fuel settled seen later rest
      else firstFault? known fuel settled seen later (known node ++ rest)

end Step

/-- What becomes of a node: its value, which counts only if there are no faults. -/
structure Built where
  value : Value
  steps : List Step := []
  /-- The node, if its value is the same key as no other one; zero otherwise. -/
  identity : Nat := 0

namespace Built

/-- A node that has no value. -/
def failed (f : Fault) : Built := { value := .null, steps := [.fault f] }

/-- A collection that is cut off. -/
def hollow : Node → Built
  | .list .. => { value := .list [] }
  | _ => { value := .map [] }

/-- A collection whose content cannot be looked at. -/
def broken (n : Node) (f : Fault) : Built :=
  { hollow n with steps := [.content n.serial [.fault f]] }

/-- What becomes of a node behind a step. -/
def after (s : Step) (b : Built) : Built := { b with steps := s :: b.steps }

/-- The key that a value can be; collections are none. -/
def key? (b : Built) : Option Scalar :=
  match b.value with
  | .scalar s => some s
  | _ => none

end Built

/-! ## what is looked up in nodes -/

namespace Document

variable (d : Document)

/-- The first entry under the key `=`. -/
def defaultEntry? (entries : List (Node × Node)) : Option (Node × Node) :=
  entries.find? fun e => d.tag e.1 = .value

/-- The text of a node read as a scalar, and the keys on the way to it: a mapping stands for its
value under the key `=`.  Where that leads back to the mapping, there is no end. -/
def scalarText : (fuel : Nat) → Node → List Nat × Except Fault (List Char)
  | 0, _ => ([], .error .endless)
  | fuel + 1, n =>
    match d.resolve n with
    | .scalar _ _ text => ([], .ok text)
    | .map _ _ entries =>
      match d.defaultEntry? entries with
      | some (k, v) =>
        let (keys, text) := scalarText fuel v
        (k.serial :: keys, text)
      | none => ([], .error .malformed)
    | _ => ([], .error .malformed)

/-- A key as it is read: `=` is a text. -/
def asKey (n : Node) : Node :=
  match d.resolve n with
  | .scalar i .value text => .scalar i .text text
  | .list i .value items => .list i .text items
  | .map i .value entries => .map i .text entries
  | _ => n

/-- Whether an entry merges other mappings into its own. -/
def isMerge (e : Node × Node) : Bool := d.tag e.1 = .merge

/-- The entries of a mapping with those of others merged in: what is merged comes first, a later
merge after an earlier one, and in a list of mappings the last one first.  Inside itself a mapping
has its own entries alone. -/
def mergedEntries : (fuel : Nat) → (around : List Nat) → Node → Except Fault (List (Node × Node))
  | 0, _, _ => .ok []
  | fuel + 1, around, n =>
    match d.resolve n with
    | .map i _ entries =>
      let own := (entries.filter fun e => !d.isMerge e).map fun e => (d.asKey e.1, e.2)
      if around.contains i then .ok own
      else do
        let merged ← (entries.filter d.isMerge).mapM fun e =>
          match d.resolve e.2 with
          | .list _ _ items =>
            (items.mapM (mergedEntries fuel (i :: around))).map fun each => each.reverse.flatten
          | other => mergedEntries fuel (i :: around) other
        return merged.flatten ++ own
    | _ => .error .malformed

/-- The nodes that settle with a mapping: itself, if others are merged into it, its keys `=`, and
those that settle with the others. -/
def settledWith : (fuel : Nat) → (around : List Nat) → Node → List Nat
  | 0, _, _ => []
  | fuel + 1, around, n =>
    match d.resolve n with
    | .map i _ entries =>
      if around.contains i then []
      else
        (if entries.any d.isMerge then [i] else []) ++ entries.flatMap fun e =>
          if d.tag e.1 = .value then [e.1.serial]
          else if d.isMerge e then
            match d.resolve e.2 with
            | .list _ _ items => items.flatMap (settledWith fuel (i :: around))
            | other => settledWith fuel (i :: around) other
          else []
    | _ => []

/-- The one entry of a mapping that has no other.  Merges count as entries until the mapping has
settled, and as such are malformed. -/
def onlyEntry? (n : Node) : Option ((Node × Node) × Option Step) :=
  match d.resolve n with
  | .map i _ entries =>
    if entries.any d.isMerge then
      match d.mergedEntries d.size [] n with
      | .ok [e] => some (e, some (.needs i))
      | _ => none
    else
      match entries with
      | [e] => some (e, none)
      | _ => none
  | _ => none

end Document

/-! ## entries -/

/-- What becomes of an entry of a mapping. -/
structure BuiltEntry where
  key : Scalar
  /-- The node of a key that is the same as no other one; zero otherwise. -/
  identity : Nat
  value : Value
  steps : List Step

/-- An entry from its key and its value; a collection is no key. -/
def BuiltEntry.of (k v : Built) : BuiltEntry :=
  match k.key? with
  | some s => ⟨s, k.identity, v.value, k.steps ++ v.steps⟩
  | none => ⟨.null, 0, v.value, k.steps ++ [.fault .malformed]⟩

/-- The entries of a mapping, a later one replacing an earlier one of the same key. -/
def BuiltEntry.collect (entries : List BuiltEntry) : List (Scalar × Value) :=
  let same (a b : Scalar × Nat) : Bool := a.2 == b.2 && a.1.sameKey b.1
  (Entries.putAll same (entries.map fun e => ((e.key, e.identity), e.value)) []).map fun e =>
    (e.1.1, e.2)

/-! ## building -/

/-- The value of a text under a tag of scalars.  That of a mapping is no date. -/
def Node.typed (tag : Tag) (text : List Char) : Node → Except Fault Scalar
  | .map .. => if tag = .timestamp then .error .mapForDate else tag.read text
  | _ => tag.read text

namespace Document

/-- What becomes of a node under a tag of scalars.  A float that is no number is the same key as
itself alone, unless it is written as the word for it. -/
def buildScalar (d : Document) (tag : Tag) (n : Node) : Built :=
  let (keys, text) := d.scalarText d.size n
  let built : Built :=
    match text with
    | .error f => .failed f
    | .ok text =>
      match n.typed tag text with
      | .error f => .failed f
      | .ok s =>
        let alone := s = .float .nan ∧ !isNanWord text
        { value := .scalar s, identity := if alone then n.serial else 0 }
  if keys.isEmpty then built else built.after (.reads n.serial keys)

/-- What becomes of a sequence. -/
def buildList (build : Node → Built) (n : Node) : Built :=
  match n with
  | .list i _ items =>
    let items := items.map build
    { value := .list (items.map (·.value)), steps := [.content i (items.flatMap (·.steps))] }
  | _ => .broken n .malformed

/-- What becomes of a mapping, whose entries make up a value. -/
def buildEntries (d : Document) (build : Node → Built) (whole : List (Scalar × Value) → Value)
    (n : Node) : Built :=
  match d.mergedEntries d.size [] n with
  | .error f => .broken n f
  | .ok entries =>
    let entries := entries.map fun e => BuiltEntry.of (build e.1) (build e.2)
    let settles :=
      match d.settledWith d.size [] n with
      | [] => []
      | nodes => [Step.settles nodes]
    { value := whole (BuiltEntry.collect entries)
      steps := [.content n.serial (settles ++ entries.flatMap (·.steps))] }

/-- What becomes of a list of pairs, each written as a mapping of one entry. -/
def buildPairs (d : Document) (build : Node → Built) (n : Node) : Built :=
  match n with
  | .list i _ items =>
    let pairs := items.map fun item =>
      (d.onlyEntry? item).map fun (e, step) => (step.toList, build e.1, build e.2)
    { value := .list (pairs.filterMap fun p => p.map fun (_, k, v) => .pair k.value v.value)
      steps := [.content i (pairs.flatMap fun p =>
        match p with
        | some (steps, k, v) => steps ++ k.steps ++ v.steps
        | none => [.fault .malformed])] }
  | _ => .broken n .malformed

/-- What becomes of a node, given what becomes of those that aliases stand for and the collections
that are around it. -/
def build (d : Document) (known : List (Nat × Built)) :
    (fuel : Nat) → (around : List Nat) → Node → Built
  | 0, _, n => .hollow n
  | fuel + 1, around, n =>
    let part := build d known fuel (n.serial :: around)
    match n.tag? with
    | none =>
      { ((known.find? fun e => e.1 == n.serial).map (·.2)).getD (.hollow n) with
        steps := [.alias n.serial] }
    | some tag =>
      if around.contains n.serial then .hollow n
      else
        match tag with
        | .merge => .failed .malformed
        | .value => (d.buildScalar .text n).after (.needs n.serial)
        | .other _ => .failed .malformed
        | .list => buildList part n
        | .map => d.buildEntries part .map n
        | .set => d.buildEntries part (fun es => .set (es.map (·.1))) n
        | .orderedMap => d.buildPairs part n
        | .pairs => d.buildPairs part n
        | tag => d.buildScalar tag n

/-- What becomes of the nodes that aliases stand for: each is built with those in front of it, and
with what was known of the others. -/
def buildAnchored (d : Document) (known : List (Nat × Built)) : List (Nat × Built) :=
  d.anchored.foldl (fun known n => (n.serial, d.build known d.size [] n) :: known) known

/-- The value of a document.  What aliases stand for is built twice, since a node may stand for one
that ends later. -/
def value (d : Document) : Except Fault Value :=
  let known := d.buildAnchored (d.buildAnchored (d.anchored.map fun n => (n.serial, .hollow n)))
  let built := d.build known d.size [] d.root
  let steps (i : Nat) : List Step := ((known.find? fun e => e.1 == i).map (·.2.steps)).getD []
  let size := Step.sizeOfAll (built.steps ++ d.anchored.flatMap fun n => steps n.serial)
  match Step.firstFault? steps (4 * size + 4) [] [] [] built.steps with
  | some f => .error f
  | none => .ok built.value

end Document

/-- The value of a text; a text without a document stands for the absent value. -/
def load (text : String) : Except Fault Value :=
  if text.toList.all isAllowed then do
    match ← document? text.toList with
    | some d => d.value
    | none => return .null
  else .error .malformed

end ControlPlane.Yaml
