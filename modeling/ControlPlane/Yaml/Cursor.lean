import ControlPlane.Text.Digit

/-!
# Reading positions

A `Cursor` is a place in a text: what is still to be read, and where that is.  Line and column
follow from the characters passed; a byte order mark takes no column.

At the end of the text there is no character, and most tests treat the end like a blank or a line
break; they are stated on `Option Char` for that reason.
-/

namespace ControlPlane.Yaml

/-! ## characters -/

/-- A character that may stand in a document. -/
def isAllowed (c : Char) : Bool :=
  let n := c.toNat
  n == 0x09 || n == 0x0A || n == 0x0D || (0x20 ≤ n && n ≤ 0x7E) || n == 0x85 ||
    (0xA0 ≤ n && n ≤ 0xFFFD) || (0x10000 ≤ n && n ≤ 0x10FFFF)

/-- A character that ends a line. -/
def endsLine (c : Char) : Bool :=
  c == '\n' || c == '\r' || c.toNat == 0x85 || c.toNat == 0x2028 || c.toNat == 0x2029

/-- A space or a tabulator. -/
def isBlankChar (c : Char) : Bool := c == ' ' || c == '\t'

/-- The end of a line or of the text. -/
def atLineEnd (c : Option Char) : Bool := c.all endsLine

/-- A space, or the end of a line or of the text. -/
def atSpace (c : Option Char) : Bool := c.all fun c => c == ' ' || endsLine c

/-- A space or a tabulator, or the end of a line or of the text. -/
def atGap (c : Option Char) : Bool := c.all fun c => isBlankChar c || endsLine c

/-- A character of names: an ASCII letter or digit, a hyphen or an underscore. -/
def isNameChar (c : Char) : Bool :=
  ('0' ≤ c && c ≤ '9') || ('A' ≤ c && c ≤ 'Z') || ('a' ≤ c && c ≤ 'z') || c == '-' || c == '_'

/-! ## cursors -/

/-- A place in a text. -/
structure Cursor where
  rest : List Char
  index : Nat
  line : Nat
  column : Nat
  deriving DecidableEq, Repr

namespace Cursor

/-- The start of a text. -/
def start (text : List Char) : Cursor := ⟨text, 0, 0, 0⟩

/-- The character at the cursor. -/
def char? (c : Cursor) : Option Char := c.rest.head?

/-- The character `n` places behind the cursor. -/
def charAt? (c : Cursor) (n : Nat) : Option Char := (c.rest.drop n).head?

/-- Whether the given character is at the cursor. -/
def isAt (c : Cursor) (x : Char) : Bool := c.char? == some x

/-- Whether passing a character starts a new line; a return in front of a line feed does not. -/
def startsLine (x : Char) (rest : List Char) : Bool :=
  endsLine x && !(x == '\r' && rest.head? == some '\n')

/-- The place behind the next character. -/
def next (c : Cursor) : Cursor :=
  match c.rest with
  | [] => c
  | x :: rest =>
    if startsLine x rest then ⟨rest, c.index + 1, c.line + 1, 0⟩
    else if x.toNat = 0xFEFF then ⟨rest, c.index + 1, c.line, c.column⟩
    else ⟨rest, c.index + 1, c.line, c.column + 1⟩

/-- The place behind the next `n` characters. -/
def skip : (n : Nat) → Cursor → Cursor
  | 0, c => c
  | n + 1, c => skip n c.next

/-- The place behind the longest run of characters of a class. -/
def skipWhile (p : Char → Bool) (c : Cursor) : Cursor := c.skip (c.rest.takeWhile p).length

/-- The place behind the longest run of spaces. -/
def skipSpaces (c : Cursor) : Cursor := c.skipWhile (· == ' ')

/-- The place behind a comment, if there is one. -/
def skipComment (c : Cursor) : Cursor :=
  if c.isAt '#' then c.skipWhile fun x => !endsLine x else c

/-- The place behind as many spaces as there are in front of a column. -/
def skipIndent (column : Nat) (c : Cursor) : Cursor :=
  c.skip (min (column - c.column) (c.rest.takeWhile (· == ' ')).length)

/-- The line break at the cursor, if there is one: the two separators of Unicode stand for
themselves, all others for a line feed. -/
def lineBreak (c : Cursor) : List Char × Cursor :=
  match c.rest with
  | '\r' :: '\n' :: _ => (['\n'], c.skip 2)
  | x :: _ =>
    if endsLine x then
      (if x.toNat = 0x2028 ∨ x.toNat = 0x2029 then [x] else ['\n'], c.next)
    else ([], c)
  | [] => ([], c)

/-- Whether a mark that separates documents is at the cursor. -/
def isAtSeparator (mark : Char) (c : Cursor) : Bool :=
  c.rest.take 3 == [mark, mark, mark] && atGap (c.charAt? 3)

end Cursor

end ControlPlane.Yaml
