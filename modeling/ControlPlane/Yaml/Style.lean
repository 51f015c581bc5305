import ControlPlane.Text.Hex
import ControlPlane.Yaml.Tag

/-!
# Styles of scalars

A text is written plain where that reads back as the same text, in single quotes where only line
breaks and indicators stand in the way, and in double quotes, with escapes, otherwise.
`Style.ofText` decides which.
-/

namespace ControlPlane.Yaml

/-- How a scalar is written. -/
inductive Style where
  | plain
  | single
  | double
  deriving DecidableEq, Repr

/-! ## characters -/

/-- A character that is written as it is in every style: printable ASCII or a line feed. -/
def isOrdinary (c : Char) : Bool := c == '\n' || (' ' ≤ c && c ≤ '~')

/-- A character that ends a line. -/
def isBreak (c : Char) : Bool :=
  c == '\n' || c.toNat == 0x85 || c.toNat == 0x2028 || c.toNat == 0x2029

/-- The characters that no plain scalar starts with. -/
def leadingIndicators : List Char :=
  ['#', ',', '[', ']', '\x7b', '\x7d', '&', '*', '!', '|', '>', '\'', '"', '%', '@', '\x60']

/-! ## obstacles -/

/-- Whether a character at the start of a text is an indicator, given what follows. -/
def isLeadingIndicator (c : Char) (rest : List Char) : Bool :=
  leadingIndicators.contains c ||
    ((c == '?' || c == ':' || c == '-') && (rest.isEmpty || rest.head? == some ' '))

/-- Whether an indicator stands within a text: a colon in front of a space or the end, or a number
sign behind a space. -/
def hasInnerIndicator : (afterSpace : Bool) → List Char → Bool
  | _, [] => false
  | afterSpace, c :: rest =>
    (c == ':' && (rest.isEmpty || rest.head? == some ' ')) || (c == '#' && afterSpace) ||
      hasInnerIndicator (c == ' ') rest

/-- Whether a text holds an indicator that a block would take for its own. -/
def hasIndicator (cs : List Char) : Bool :=
  cs.take 3 == ['-', '-', '-'] || cs.take 3 == ['.', '.', '.'] ||
    match cs with
    | c :: rest => isLeadingIndicator c rest || hasInnerIndicator (c == ' ') rest
    | [] => false

/-- Whether one of two characters stands right in front of the other somewhere. -/
def hasAdjacent (p q : Char → Bool) : List Char → Bool
  | c :: d :: rest => (p c && q d) || hasAdjacent p q (d :: rest)
  | _ => false

/-- Whether a text begins or ends with a blank. -/
def hasOuterBlank (cs : List Char) : Bool :=
  let isBlank (c : Option Char) : Bool := c == some ' ' || c == some '\n'
  isBlank cs.head? || isBlank cs.getLast?

/-- Whether a text has more than one line. -/
def isMultiline (cs : List Char) : Bool := cs.any isBreak

/-- Whether a text is free of obstacles to the plain style. -/
def isPlainText (cs : List Char) : Bool :=
  !cs.isEmpty && cs.all isOrdinary && !isMultiline cs && !hasOuterBlank cs && !hasIndicator cs

/-- Whether a text is free of obstacles to single quotes: blanks next to line breaks, and characters
that need an escape. -/
def isSingleText (cs : List Char) : Bool :=
  cs.all isOrdinary && !hasAdjacent (· == ' ') (· == '\n') cs &&
    !hasAdjacent (· == '\n') (· == ' ') cs

/-- The style of a text. -/
def Style.ofText (cs : List Char) : Style :=
  if isPlainText cs && Tag.ofPlain cs == .text then .plain
  else if isSingleText cs then .single
  else .double

/-- Whether a text can be a key without an indicator of its own: it has one line, at least one
character and at most 122 of them. -/
def isSimpleKey (cs : List Char) : Bool :=
  !cs.isEmpty && !isMultiline cs && cs.length ≤ 122

end ControlPlane.Yaml
