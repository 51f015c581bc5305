import ControlPlane.Manifest.Workload
import ControlPlane.Yaml.Style

/-!
# Block style

`printDocument` writes a wire form as a document in block style: one entry or item a line, lists at
the indentation of the key that they belong to, long scalars folded over several lines.

Every function gives the characters of one node, on the assumption that they are put behind a colon
or a dash.  It is told the column where they begin, because folding depends on it, and the
indentation of the lines that follow.
-/

namespace ControlPlane.Yaml

/-- The column behind which lines are folded. -/
def lineWidth : Nat := 80

/-- The blanks of an indentation. -/
def spaces (n : Nat) : List Char := List.replicate n ' '

/-- A new line and its indentation. -/
def newLine (indent : Nat) : List Char := '\n' :: spaces indent

/-! ## plain and single-quoted scalars -/

/-- Whether a space may become a line break: it stands alone between two other characters. -/
def isFoldable (before : Option Char) (rest : List Char) : Bool :=
  match before, rest with
  | some b, c :: _ => b != ' ' && c != ' '
  | _, _ => false

/-- The characters of a plain or single-quoted scalar from a column on.  A single space behind the
line width becomes a new line, a line break stands for itself with an empty line in front of the run
that it is in, and a quote is doubled. -/
def foldedFrom (fold : Bool) (indent : Nat) : (before : Option Char) → (column : Nat) →
    List Char → List Char
  | _, _, [] => []
  | before, column, c :: rest =>
    if c = ' ' then
      if fold && lineWidth < column && isFoldable before rest then
        newLine indent ++ foldedFrom fold indent (some c) indent rest
      else c :: foldedFrom fold indent (some c) (column + 1) rest
    else if c = '\n' then
      (if before = some '\n' then ['\n'] else ['\n', '\n']) ++
        (if rest.head? = some '\n' then [] else spaces indent) ++
        foldedFrom fold indent (some c) indent rest
    else if c = '\'' then
      '\'' :: '\'' :: foldedFrom fold indent (some c) (column + 2) rest
    else c :: foldedFrom fold indent (some c) (column + 1) rest

/-- The characters of a plain scalar from a column on: quotes stand for themselves. -/
def plainFrom (fold : Bool) (indent : Nat) : (before : Option Char) → (column : Nat) →
    List Char → List Char
  | _, _, [] => []
  | before, column, c :: rest =>
    if c = ' ' ∧ (fold && lineWidth < column && isFoldable before rest) = true then
      newLine indent ++ plainFrom fold indent (some c) indent rest
    else c :: plainFrom fold indent (some c) (column + 1) rest

/-! ## double-quoted scalars -/

/-- The letters of escapes, by code point. -/
def escapeLetters : List (Nat × Char) :=
  [(0x00, '0'), (0x07, 'a'), (0x08, 'b'), (0x09, 't'), (0x0A, 'n'), (0x0B, 'v'), (0x0C, 'f'),
   (0x0D, 'r'), (0x1B, 'e'), (0x22, '"'), (0x5C, '\\'), (0x85, 'N'), (0xA0, '_'),
   (0x2028, 'L'), (0x2029, 'P')]

/-- Whether a character is written as it is in double quotes. -/
def isUnescaped (c : Char) : Bool := ' ' ≤ c && c ≤ '~' && c != '"' && c != '\\'

/-- A character as an escape: by a letter if it has one, by its code point otherwise. -/
def escape (c : Char) : List Char :=
  match escapeLetters.find? fun e => e.1 == c.toNat with
  | some e => ['\\', e.2]
  | none =>
    if c.toNat ≤ 0xFF then '\\' :: 'x' :: Text.hexText .upper 2 c.toNat
    else if c.toNat ≤ 0xFFFF then '\\' :: 'u' :: Text.hexText .upper 4 c.toNat
    else '\\' :: 'U' :: Text.hexText .upper 8 c.toNat

/-- A line end within double quotes: a backslash at the end, and one in front of a space that
follows. -/
def splitLine (indent : Nat) (next : Option Char) : List Char :=
  '\\' :: newLine indent ++ (if next = some ' ' then ['\\'] else [])

/-- The column behind `splitLine`. -/
def splitColumn (indent : Nat) (next : Option Char) : Nat :=
  if next = some ' ' then indent + 1 else indent

/-- The characters of a double-quoted scalar from a column on.  Lines are split in front of a space,
behind an escape, and in front of the first character after an escape; `fresh` says whether one has
just been written.  The first and the last character of the text stay where they are. -/
def doubleFrom (fold : Bool) (indent : Nat) : (first fresh : Bool) → (column : Nat) →
    List Char → List Char
  | _, _, _, [] => []
  | first, fresh, column, c :: rest =>
    let inner := fold && !first && !rest.isEmpty
    if isUnescaped c then
      if inner && (c == ' ' || fresh) && lineWidth < column then
        splitLine indent (some c) ++
          c :: doubleFrom fold indent false false (splitColumn indent (some c) + 1) rest
      else c :: doubleFrom fold indent false false (column + 1) rest
    else
      let e := escape c
      if inner && lineWidth + 1 < column + e.length then
        e ++ splitLine indent rest.head? ++
          doubleFrom fold indent false true (splitColumn indent rest.head?) rest
      else e ++ doubleFrom fold indent false true (column + e.length) rest

/-! ## scalars -/

/-- A text as a scalar that begins at a column. -/
def textScalar (fold : Bool) (indent column : Nat) (cs : List Char) : List Char :=
  match Style.ofText cs with
  | .plain => plainFrom fold indent none column cs
  | .single => '\'' :: foldedFrom fold indent none (column + 1) cs ++ ['\'']
  | .double => '"' :: doubleFrom fold indent true true (column + 1) cs ++ ['"']

/-- The characters of a truth value. -/
def boolText (b : Bool) : List Char := if b then "true".toList else "false".toList

/-! ## nodes -/

/-- Rows of a block, one under the other. -/
def joinRows (indent : Nat) (rows : List (List Char)) : List Char :=
  (newLine indent).intercalate rows

/-- A key, up to and with the colon, and what follows it, given what that is behind a simple key and
behind one with an indicator. -/
def keyRow (indent : Nat) (key : List Char) (simple : (column : Nat) → List Char)
    (complex : List Char) : List Char :=
  if isSimpleKey key then
    let written := textScalar false (indent + 2) indent key
    written ++ ':' :: simple (indent + written.length + 1)
  else
    '?' :: ' ' :: textScalar true (indent + 2) (indent + 2) key ++
      newLine indent ++ ':' :: complex

mutual

/-- A node behind a simple key that ends at a column.  A list stays at the key's indentation. -/
def behindKey (indent column : Nat) : Wire → List Char
  | .null => ' ' :: "null".toList
  | .bool b => ' ' :: boolText b
  | .int i => ' ' :: (toString i).toList
  | .text s => ' ' :: textScalar true (indent + 2) (column + 1) s.toList
  | .list [] => [' ', '[', ']']
  | .list (w :: ws) => newLine indent ++ joinRows indent (itemRows indent (w :: ws))
  | .object [] => [' ', '\x7b', '\x7d']
  | .object (e :: es) =>
    newLine (indent + 2) ++ joinRows (indent + 2) (entryRows (indent + 2) (e :: es))

/-- A node behind a dash, or behind the colon of a key with an indicator: it starts on the same
line. -/
def behindDash (indent : Nat) : Wire → List Char
  | .null => ' ' :: "null".toList
  | .bool b => ' ' :: boolText b
  | .int i => ' ' :: (toString i).toList
  | .text s => ' ' :: textScalar true (indent + 2) (indent + 2) s.toList
  | .list [] => [' ', '[', ']']
  | .list (w :: ws) => ' ' :: joinRows (indent + 2) (itemRows (indent + 2) (w :: ws))
  | .object [] => [' ', '\x7b', '\x7d']
  | .object (e :: es) => ' ' :: joinRows (indent + 2) (entryRows (indent + 2) (e :: es))

/-- The rows of a list. -/
def itemRows (indent : Nat) : List Wire → List (List Char)
  | [] => []
  | w :: ws => ('-' :: behindDash indent w) :: itemRows indent ws

/-- The rows of an object. -/
def entryRows (indent : Nat) : List (String × Wire) → List (List Char)
  | [] => []
  | (k, w) :: es =>
    keyRow indent k.toList (fun column => behindKey indent column w) (behindDash indent w) ::
      entryRows indent es

end

/-! ## documents -/

/-- A node that is a whole document.  A plain scalar is closed by three points. -/
def printNode : Wire → List Char
  | .null => "null\n...".toList
  | .bool b => boolText b ++ "\n...".toList
  | .int i => (toString i).toList ++ "\n...".toList
  | .text s =>
    textScalar true 2 0 s.toList ++
      (if Style.ofText s.toList = .plain then "\n...".toList else [])
  | .list [] => ['[', ']']
  | .list ws => joinRows 0 (itemRows 0 ws)
  | .object [] => ['\x7b', '\x7d']
  | .object es => joinRows 0 (entryRows 0 es)

/-- A wire form as a document. -/
def printDocument (w : Wire) : String := String.ofList (printNode w ++ ['\n'])

end ControlPlane.Yaml

namespace ControlPlane

/-- A manifest as a document. -/
def Manifest.toYaml (m : Manifest) : String := Yaml.printDocument m.toWire

end ControlPlane
