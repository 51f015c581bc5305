import ControlPlane.Number.Integer
import ControlPlane.Text.Utf8
import ControlPlane.Yaml.Token

/-!
# Lexemes

The readers of single lexemes: scalars in all styles, anchors, tags and directives.  Each takes a
cursor in front of the lexeme and gives what it stands for and the place behind it.

Loops over lines or pieces are bounded by the number of characters left, because every round passes
at least one.
-/

namespace ControlPlane.Yaml

/-- The outcome of a reader. -/
abbrev Lexed (α : Type) := Except Fault (α × Cursor)

/-! ## block scalars -/

/-- What is done with the line breaks at the end of a block scalar. -/
inductive Chomping where
  | strip
  | clip
  | keep
  deriving DecidableEq, Repr

/-- The chomping that a sign stands for. -/
def Chomping.ofSign? (c : Option Char) : Option Chomping :=
  match c with
  | some '+' => some .keep
  | some '-' => some .strip
  | _ => none

/-- A digit of an indentation: none is `none`, and zero is refused. -/
def indentDigit (c : Option Char) : Except Fault (Option Nat) :=
  match c.bind (Text.radixValue? 10) with
  | some 0 => .error .malformed
  | d => .ok d

/-- The indicators behind the mark of a block scalar: a chomping sign and a digit, in any order. -/
def blockIndicators (c : Cursor) : Lexed (Chomping × Option Nat) :=
  match Chomping.ofSign? c.char? with
  | some chomping =>
    match indentDigit c.next.char? with
    | .error f => .error f
    | .ok none => finish chomping none c.next
    | .ok (some d) => finish chomping (some d) (c.skip 2)
  | none =>
    match indentDigit c.char? with
    | .error f => .error f
    | .ok none => finish .clip none c
    | .ok (some d) =>
      match Chomping.ofSign? c.next.char? with
      | some chomping => finish chomping (some d) (c.skip 2)
      | none => finish .clip (some d) c.next
where
  /-- The indicators are followed by a space or the end of the line. -/
  finish (chomping : Chomping) (digit : Option Nat) (c : Cursor) :
      Lexed (Chomping × Option Nat) :=
    if atSpace c.char? then .ok ((chomping, digit), c) else .error .malformed

/-- The place behind a line on which nothing but a comment is left. -/
def skipRestOfLine (c : Cursor) : Except Fault Cursor :=
  let c := c.skipSpaces.skipComment
  if atLineEnd c.char? then .ok c.lineBreak.2 else .error .malformed

/-- The empty lines at the start of a block scalar: their line breaks, and the deepest column that
spaces reach. -/
def leadingLines : (fuel : Nat) → (breaks : List Char) → (deepest : Nat) → Cursor →
    (List Char × Nat) × Cursor
  | 0, breaks, deepest, c => ((breaks, deepest), c)
  | fuel + 1, breaks, deepest, c =>
    match c.char? with
    | some ' ' => leadingLines fuel breaks (max deepest c.next.column) c.next
    | some x =>
      if endsLine x then leadingLines fuel (breaks ++ c.lineBreak.1) deepest c.lineBreak.2
      else ((breaks, deepest), c)
    | none => ((breaks, deepest), c)

/-- The empty lines within a block scalar of a given indentation: their line breaks. -/
def emptyLines (indent : Nat) : (fuel : Nat) → (breaks : List Char) → Cursor →
    List Char × Cursor
  | 0, breaks, c => (breaks, c)
  | fuel + 1, breaks, c =>
    let c := c.skipIndent indent
    if c.char?.any endsLine then emptyLines indent fuel (breaks ++ c.lineBreak.1) c.lineBreak.2
    else (breaks, c)

/-- The empty lines at a place in a block scalar. -/
def emptyLinesAt (indent : Nat) (c : Cursor) : List Char × Cursor :=
  emptyLines indent (c.rest.length + 1) [] c

/-- A block scalar so far: its text, the last line break, and the empty lines behind that. -/
structure BlockText where
  text : List Char
  lineBreak : List Char
  emptyLines : List Char

/-- Whether a line break between two lines of a folded scalar becomes a space: neither line is
indented further. -/
def isFolded (folded : Bool) (lineBreak : List Char) (before after : Option Char) : Bool :=
  folded && lineBreak == ['\n'] && !before.any isBlankChar && !after.any isBlankChar

/-- The lines of a block scalar, behind the text and the empty lines so far. -/
def blockLines (folded : Bool) (indent : Nat) : (fuel : Nat) → BlockText → Cursor →
    BlockText × Cursor
  | 0, b, c => (b, c)
  | fuel + 1, b, c =>
    if c.column = indent ∧ c.char?.isSome then
      let line := c.rest.takeWhile fun x => !endsLine x
      let (lineBreak, d) := (c.skip line.length).lineBreak
      let (breaks, e) := emptyLinesAt indent d
      let text := b.text ++ b.emptyLines ++ line
      if e.column = indent ∧ e.char?.isSome then
        let joint :=
          if isFolded folded lineBreak c.char? e.char? then
            (if breaks.isEmpty then [' '] else [])
          else lineBreak
        blockLines folded indent fuel ⟨text ++ joint, [], breaks⟩ e
      else (⟨text, lineBreak, breaks⟩, e)
    else (b, c)

/-- A block scalar without the line breaks that its chomping takes away. -/
def BlockText.chomped (chomping : Chomping) (b : BlockText) : List Char :=
  match chomping with
  | .strip => b.text
  | .clip => b.text ++ b.lineBreak
  | .keep => b.text ++ b.lineBreak ++ b.emptyLines

/-- A block scalar; its lines are indented further than the block around it. -/
def blockScalar (folded : Bool) (parent : Int) (c : Cursor) :
    Except Fault (List Char × Cursor) := do
  let ((chomping, digit), c) ← blockIndicators c.next
  let c ← skipRestOfLine c
  let least := max 1 (parent + 1).toNat
  let (indent, breaks, c) :=
    match digit with
    | none =>
      let ((breaks, deepest), c) := leadingLines (c.rest.length + 1) [] 0 c
      (max least deepest, breaks, c)
    | some d =>
      let indent := least + d - 1
      let (breaks, c) := emptyLinesAt indent c
      (indent, breaks, c)
  let (b, c) := blockLines folded indent (c.rest.length + 1) ⟨[], [], breaks⟩ c
  return (b.chomped chomping, c)

/-! ## quoted scalars -/

/-- The text that a line break within a scalar stands for, with the empty lines behind it: a space
if there are none. -/
def foldedBreak (lineBreak emptyLines : List Char) : List Char :=
  (if lineBreak ≠ ['\n'] then lineBreak else if emptyLines.isEmpty then [' '] else []) ++ emptyLines

/-- What the letter of an escape stands for. -/
def escapeLetter? (c : Char) : Option Char :=
  let table : List (Char × Nat) :=
    [('0', 0x00), ('a', 0x07), ('b', 0x08), ('t', 0x09), ('\t', 0x09), ('n', 0x0A), ('v', 0x0B),
     ('f', 0x0C), ('r', 0x0D), ('e', 0x1B), (' ', 0x20), ('"', 0x22), ('\\', 0x5C), ('/', 0x2F),
     ('N', 0x85), ('_', 0xA0), ('L', 0x2028), ('P', 0x2029)]
  (table.find? fun e => e.1 == c).map fun e => Char.ofNat e.2

/-- How many hexadecimal digits the letter of an escape asks for. -/
def escapeWidth? (c : Char) : Option Nat :=
  match c with
  | 'x' => some 2
  | 'u' => some 4
  | 'U' => some 8
  | _ => none

/-- The character with a code point in hexadecimal digits.  A surrogate is no character: texts with
one of them alone are not covered, and the zero character stands in for it. -/
def codePoint (digits : List Char) : Except Fault Char :=
  let values := digits.filterMap (Text.radixValue? 16)
  if values.length ≠ digits.length then .error .malformed
  else
    let n := Text.digitsValue 16 values
    if 0x7FFFFFFF < n then .error .hugeCodePoint
    else if 0x10FFFF < n then .error .noCodePoint
    else .ok (Char.ofNat n)

/-- The empty lines within a quoted scalar: their line breaks.  A mark that separates documents must
not stand at the start of a line. -/
def quotedBreaks : (fuel : Nat) → (breaks : List Char) → Cursor → Lexed (List Char)
  | 0, breaks, c => .ok (breaks, c)
  | fuel + 1, breaks, c =>
    if c.isAtSeparator '-' || c.isAtSeparator '.' then .error .malformed
    else
      let c := c.skipWhile isBlankChar
      if c.char?.any endsLine then quotedBreaks fuel (breaks ++ c.lineBreak.1) c.lineBreak.2
      else .ok (breaks, c)

/-- The text between two pieces of a quoted scalar: blanks within a line stand for themselves, and a
line break for a space unless empty lines follow. -/
def quotedGap (c : Cursor) : Lexed (List Char) :=
  let blanks := c.rest.takeWhile isBlankChar
  let d := c.skip blanks.length
  match d.char? with
  | none => .error .malformed
  | some x =>
    if endsLine x then
      let (lineBreak, d) := d.lineBreak
      (quotedBreaks (d.rest.length + 1) [] d).map fun (breaks, d) =>
        (foldedBreak lineBreak breaks, d)
    else .ok (blanks, d)

/-- An escape, from behind its backslash. -/
def escapeAt (c : Cursor) : Lexed (List Char) :=
  match c.char? with
  | none => .error .malformed
  | some x =>
    match escapeLetter? x, escapeWidth? x with
    | some y, _ => .ok ([y], c.next)
    | none, some width =>
      let digits := c.next.rest.take width
      if digits.length < width then .error .malformed
      else (codePoint digits).map fun y => ([y], c.next.skip width)
    | none, none =>
      if endsLine x then
        let d := c.lineBreak.2
        quotedBreaks (d.rest.length + 1) [] d
      else .error .malformed

/-- The characters of a quoted scalar up to the closing quote. -/
def quotedFrom (double : Bool) : (fuel : Nat) → (text : List Char) → Cursor → Lexed (List Char)
  | 0, _, _ => .error .malformed
  | fuel + 1, text, c =>
    match c.char? with
    | none => .error .malformed
    | some x =>
      if isBlankChar x || endsLine x then
        match quotedGap c with
        | .error f => .error f
        | .ok (gap, c) => quotedFrom double fuel (text ++ gap) c
      else if double && x == '\\' then
        match escapeAt c.next with
        | .error f => .error f
        | .ok (piece, c) => quotedFrom double fuel (text ++ piece) c
      else if !double && x == '\'' && c.charAt? 1 == some '\'' then
        quotedFrom double fuel (text ++ ['\'']) (c.skip 2)
      else if x == (if double then '"' else '\'') then .ok (text, c.next)
      else
        let run := c.rest.takeWhile fun y =>
          !(isBlankChar y || endsLine y || y == '\\' || y == '\'' || y == '"')
        if run.isEmpty then quotedFrom double fuel (text ++ [x]) c.next
        else quotedFrom double fuel (text ++ run) (c.skip run.length)

/-- A quoted scalar. -/
def quotedScalar (double : Bool) (c : Cursor) : Lexed (List Char) :=
  quotedFrom double (c.rest.length + 1) [] c.next

/-! ## plain scalars -/

/-- Whether a character within a flow collection ends a plain scalar. -/
def isFlowIndicator (c : Char) : Bool :=
  c == ',' || c == '?' || c == '[' || c == ']' || c == '\x7b' || c == '\x7d'

/-- Whether a colon in front of this ends a plain scalar. -/
def endsKey (flow : Bool) (after : Option Char) : Bool :=
  atGap after || (flow && after.any fun c => isFlowIndicator c && c != '?')

/-- The longest piece of a plain scalar without blanks. -/
def plainRun (flow : Bool) : List Char → List Char
  | [] => []
  | c :: rest =>
    if isBlankChar c || endsLine c || (c == ':' && endsKey flow rest.head?) ||
        (flow && isFlowIndicator c) then []
    else c :: plainRun flow rest

/-- The spaces and empty lines behind a line of a plain scalar: their line breaks; none if a mark
that separates documents follows. -/
def plainBreaks : (fuel : Nat) → (breaks : List Char) → Cursor → Option (List Char) × Cursor
  | 0, breaks, c => (some breaks, c)
  | fuel + 1, breaks, c =>
    if c.isAt ' ' then plainBreaks fuel breaks c.next
    else if c.char?.any endsLine then
      let (lineBreak, c) := c.lineBreak
      if c.isAtSeparator '-' || c.isAtSeparator '.' then (none, c)
      else plainBreaks fuel (breaks ++ lineBreak) c
    else (some breaks, c)

/-- The text between two pieces of a plain scalar, empty if no piece can follow, and whether it
reaches another line. -/
def plainGap (c : Cursor) : (List Char × Bool) × Cursor :=
  let spaces := c.rest.takeWhile (· == ' ')
  let d := c.skip spaces.length
  if d.char?.any endsLine then
    let (lineBreak, d) := d.lineBreak
    if d.isAtSeparator '-' || d.isAtSeparator '.' then (([], true), d)
    else
      match plainBreaks (d.rest.length + 1) [] d with
      | (none, d) => (([], true), d)
      | (some breaks, d) => ((foldedBreak lineBreak breaks, true), d)
  else ((spaces, false), d)

/-- The pieces of a plain scalar, and whether the cursor ends up on a line behind the last one. -/
def plainFromCursor (flow : Bool) (indent : Nat) : (fuel : Nat) → (text gap : List Char) →
    (newLine : Bool) → Cursor → (List Char × Bool) × Cursor
  | 0, text, _, newLine, c => ((text, newLine), c)
  | fuel + 1, text, gap, newLine, c =>
    let run := plainRun flow c.rest
    if c.isAt '#' || run.isEmpty then ((text, newLine), c)
    else
      let text := text ++ gap ++ run
      let ((gap, newLine), d) := plainGap (c.skip run.length)
      if gap.isEmpty || d.isAt '#' || (!flow && d.column < indent) then ((text, newLine), d)
      else plainFromCursor flow indent fuel text gap newLine d

/-- A plain scalar, and whether the cursor ends up on a line behind it. -/
def plainScalar (flow : Bool) (parent : Int) (c : Cursor) : (List Char × Bool) × Cursor :=
  plainFromCursor flow (parent + 1).toNat (c.rest.length + 1) [] [] false c

/-! ## anchors and aliases -/

/-- A character that may stand right behind the name of an anchor. -/
def endsName (c : Option Char) : Bool :=
  atGap c || c.any fun c =>
    c == '?' || c == ':' || c == ',' || c == ']' || c == '\x7d' || c == '%' || c == '@' ||
      c == '\x60'

/-- The name of an anchor or an alias, behind its indicator. -/
def anchorName (c : Cursor) : Lexed (List Char) :=
  let name := c.next.rest.takeWhile isNameChar
  let d := c.next.skip name.length
  if name.isEmpty || !endsName d.char? then .error .malformed else .ok (name, d)

/-! ## tags -/

/-- A character of the name of a tag. -/
def isUriChar (c : Char) : Bool :=
  isNameChar c || ";/?:@&=+$,.!~*'()[]%".toList.contains c

/-- The bytes of a run of escapes in the name of a tag. -/
def uriBytes : (fuel : Nat) → (bytes : List UInt8) → Cursor → Lexed (List UInt8)
  | 0, bytes, c => .ok (bytes, c)
  | fuel + 1, bytes, c =>
    if c.isAt '%' then
      match c.next.rest.take 2 with
      | [a, b] =>
        match Text.radixValue? 16 a, Text.radixValue? 16 b with
        | some x, some y => uriBytes fuel (bytes ++ [UInt8.ofNat (16 * x + y)]) (c.skip 3)
        | _, _ => .error .malformed
      | _ => .error .malformed
    else .ok (bytes, c)

/-- The characters of the name of a tag, escapes resolved. -/
def uriFrom : (fuel : Nat) → (text : List Char) → Cursor → Lexed (List Char)
  | 0, text, c => .ok (text, c)
  | fuel + 1, text, c =>
    match c.char? with
    | some '%' =>
      match uriBytes (c.rest.length + 1) [] c with
      | .error f => .error f
      | .ok (bytes, c) =>
        match Text.decodeUtf8? bytes with
        | some s => uriFrom fuel (text ++ s) c
        | none => .error .malformed
    | some x => if isUriChar x then uriFrom fuel (text ++ [x]) c.next else .ok (text, c)
    | none => .ok (text, c)

/-- The name of a tag. -/
def uri (c : Cursor) : Lexed (List Char) :=
  match uriFrom (c.rest.length + 1) [] c with
  | .error f => .error f
  | .ok (text, d) => if d.index = c.index then .error .malformed else .ok (text, d)

/-- The handle of a tag: a name between exclamation marks, or a single mark in front of a space. -/
def tagHandle (c : Cursor) : Lexed (List Char) :=
  if !c.isAt '!' then .error .malformed
  else if c.charAt? 1 = some ' ' then .ok (['!'], c.next)
  else
    let name := c.next.rest.takeWhile isNameChar
    if c.charAt? (name.length + 1) = some '!' then
      .ok ('!' :: name ++ ['!'], c.skip (name.length + 2))
    else .error .malformed

/-- A tag: in angle brackets, behind a handle, or a single exclamation mark. -/
def tag (c : Cursor) : Except Fault ((Option (List Char) × List Char) × Cursor) := do
  let (t, c) ←
    match c.charAt? 1 with
    | some '<' => do
      let (suffix, c) ← uri (c.skip 2)
      if c.isAt '>' then pure (((none : Option (List Char)), suffix), c.next)
      else throw Fault.malformed
    | after =>
      if atGap after then pure ((none, ['!']), c.next)
      else do
        -- a second mark in front of the next space belongs to the handle
        let word := c.next.rest.takeWhile fun x => !(x == ' ' || endsLine x)
        let (handle, c) ← if word.contains '!' then tagHandle c else pure (['!'], c.next)
        let (suffix, c) ← uri c
        pure ((some handle, suffix), c)
  if atSpace c.char? then return (t, c) else throw Fault.malformed

/-! ## directives -/

/-- A number of a version. -/
def versionNumber (c : Cursor) : Lexed Nat :=
  let digits := c.rest.takeWhile Integer.isPlainDigit
  if digits.isEmpty then .error .malformed
  else if Integer.digitLimit < digits.length then .error .noInteger
  else .ok (Integer.plainValue digits, c.skip digits.length)

/-- The contents of a directive, behind its name. -/
def directiveValue (name : List Char) (c : Cursor) : Except Fault (Directive × Cursor) := do
  if name = "YAML".toList then
    let (major, c) ← versionNumber c.skipSpaces
    if !c.isAt '.' then throw Fault.malformed
    let (minor, c) ← versionNumber c.next
    if !atSpace c.char? then throw Fault.malformed
    return (.version major minor, c)
  else if name = "TAG".toList then
    let (handle, c) ← tagHandle c.skipSpaces
    if !c.isAt ' ' then throw Fault.malformed
    let (uri, c) ← uri c.skipSpaces
    if !atSpace c.char? then throw Fault.malformed
    return (.tag handle uri, c)
  else return (.other, c.skipWhile fun x => !endsLine x)

/-- A directive, up to the end of its line. -/
def directive (c : Cursor) : Except Fault (Directive × Cursor) := do
  let name := c.next.rest.takeWhile isNameChar
  let c := c.next.skip name.length
  if name.isEmpty || !atSpace c.char? then throw Fault.malformed
  let (d, c) ← directiveValue name c
  let c ← skipRestOfLine c
  return (d, c)

end ControlPlane.Yaml
