import ControlPlane.Number.Integer

/-!
# Tags

A tag says what kind of value a node is.  A plain scalar without a tag has the tag that its text
suggests: `Tag.ofPlain` finds it by the resolution rules of YAML 1.1, for which `yes`, `0b11`,
`1:30`, `2024-01-01` and `~` are no texts.

Each rule is a test on characters.  A line break at the very end of a text does not count.
-/

namespace ControlPlane.Yaml

/-- What kind of value a node is. -/
inductive Tag where
  | text
  | int
  | float
  | bool
  | null
  | timestamp
  | binary
  | list
  | map
  | orderedMap
  | pairs
  | set
  | merge
  | value
  /-- Any other tag, in full. -/
  | other (uri : List Char)
  deriving DecidableEq, Repr

namespace Tag

/-- What the full names of the standard tags start with. -/
def standardStart : List Char := "tag:yaml.org,2002:".toList

/-- The tags with short names. -/
def named : List (List Char × Tag) :=
  [("str".toList, .text), ("int".toList, .int), ("float".toList, .float), ("bool".toList, .bool),
   ("null".toList, .null), ("timestamp".toList, .timestamp), ("binary".toList, .binary),
   ("seq".toList, .list), ("map".toList, .map), ("omap".toList, .orderedMap),
   ("pairs".toList, .pairs), ("set".toList, .set), ("merge".toList, .merge),
   ("value".toList, .value)]

/-- The tag with a full name. -/
def ofUri (uri : List Char) : Tag :=
  match named.find? fun n => standardStart ++ n.1 == uri with
  | some n => n.2
  | none => .other uri

/-! ## runs of characters -/

/-- A digit or an underscore. -/
def isDigitOr_ (c : Char) : Bool := Integer.isPlainDigit c || c == '_'

/-- A text without a sign in front. -/
def unsigned (cs : List Char) : List Char :=
  match cs with
  | '+' :: rest => rest
  | '-' :: rest => rest
  | _ => cs

/-- A digit, followed by digits and underscores: what comes after them. -/
def afterNumber? (cs : List Char) : Option (List Char) :=
  match cs with
  | c :: rest => if Integer.isPlainDigit c then some (rest.dropWhile isDigitOr_) else none
  | [] => none

/-- One sexagesimal place behind a colon: what comes after it.  Its first digit is left out or at
most five. -/
def afterPlace? (cs : List Char) : Option (List Char) :=
  match cs with
  | ':' :: a :: b :: rest =>
    if '0' ≤ a ∧ a ≤ '5' ∧ Integer.isPlainDigit b then some rest
    else if Integer.isPlainDigit a then some (b :: rest)
    else none
  | [':', a] => if Integer.isPlainDigit a then some [] else none
  | _ => none

/-- As many sexagesimal places as there are, with their number. -/
def afterPlaces : (fuel : Nat) → Nat → List Char → Nat × List Char
  | 0, n, cs => (n, cs)
  | fuel + 1, n, cs =>
    match afterPlace? cs with
    | some rest => afterPlaces fuel (n + 1) rest
    | none => (n, cs)

/-! ## integers -/

/-- A number of sexagesimal places, without a leading zero. -/
def isSexagesimalInt (cs : List Char) : Bool :=
  match cs with
  | c :: _ =>
    '1' ≤ c && c ≤ '9' &&
      match afterNumber? cs with
      | some rest =>
        let (n, rest) := afterPlaces rest.length 0 rest
        0 < n && rest.isEmpty
      | none => false
  | [] => false

/-- Whether a text reads as an integer: in radix two, eight, ten or sixteen, or sexagesimal. -/
def isInt (cs : List Char) : Bool :=
  match unsigned cs with
  | '0' :: 'b' :: rest => !rest.isEmpty && rest.all fun c => c == '0' || c == '1' || c == '_'
  | '0' :: 'x' :: rest =>
    !rest.isEmpty && rest.all fun c => (Text.radixValue? 16 c).isSome || c == '_'
  | '0' :: rest => rest.all fun c => ('0' ≤ c && c ≤ '7') || c == '_'
  | c :: rest =>
    ('1' ≤ c && c ≤ '9' && rest.all isDigitOr_) || isSexagesimalInt (c :: rest)
  | [] => false

/-! ## floating-point numbers -/

/-- An exponent with a sign, or nothing. -/
def isExponent (cs : List Char) : Bool :=
  match cs with
  | [] => true
  | e :: s :: rest =>
    (e == 'e' || e == 'E') && (s == '+' || s == '-') && !rest.isEmpty &&
      rest.all Integer.isPlainDigit
  | _ => false

/-- A point with digits before it, or sexagesimal places. -/
def isPointed (cs : List Char) : Bool :=
  match afterNumber? cs with
  | some ('.' :: rest) => isExponent (rest.dropWhile isDigitOr_)
  | some rest =>
    match afterPlaces rest.length 0 rest with
    | (_ + 1, '.' :: rest) => rest.all isDigitOr_
    | _ => false
  | none => false

/-- Whether a text reads as a floating-point number. -/
def isFloat (cs : List Char) : Bool :=
  isPointed (unsigned cs) ||
    (match cs with
      | '.' :: rest =>
        match afterNumber? rest with
        | some rest => isExponent rest
        | none => false
      | _ => false) ||
    [".inf", ".Inf", ".INF"].any (fun w => w.toList == unsigned cs) ||
    [".nan", ".NaN", ".NAN"].any (fun w => w.toList == cs)

/-! ## timestamps -/

/-- So many digits: what comes after them. -/
def afterDigits? : Nat → List Char → Option (List Char)
  | 0, cs => some cs
  | n + 1, c :: cs => if Integer.isPlainDigit c then afterDigits? n cs else none
  | _, _ => none

/-- One or two digits: what comes after them. -/
def afterOneOrTwo? (cs : List Char) : Option (List Char) :=
  match afterDigits? 2 cs with
  | some rest => some rest
  | none => afterDigits? 1 cs

/-- A given character: what comes after it. -/
def after? (c : Char) (cs : List Char) : Option (List Char) :=
  match cs with
  | d :: rest => if d = c then some rest else none
  | [] => none

/-- A blank of a line. -/
def isInlineBlank (c : Char) : Bool := c == ' ' || c == '\t'

/-- A distance from universal time, or nothing. -/
def isZone (cs : List Char) : Bool :=
  match cs.dropWhile isInlineBlank with
  | [] => cs.isEmpty
  | ['Z'] => true
  | s :: rest =>
    (s == '+' || s == '-') &&
      match afterOneOrTwo? rest with
      | some [] => true
      | some (':' :: rest) => afterDigits? 2 rest == some []
      | _ => false

/-- A time of day with an optional fraction of a second and distance from universal time. -/
def isTime (cs : List Char) : Bool :=
  let rest? := do
    let cs ← afterOneOrTwo? cs
    let cs ← after? ':' cs
    let cs ← afterDigits? 2 cs
    let cs ← after? ':' cs
    afterDigits? 2 cs
  match rest? with
  | some ('.' :: rest) => isZone (rest.dropWhile Integer.isPlainDigit)
  | some rest => isZone rest
  | none => false

/-- Whether a text reads as a date with two digits for month and day. -/
def isDate (cs : List Char) : Bool :=
  let rest? := do
    let cs ← afterDigits? 4 cs
    let cs ← after? '-' cs
    let cs ← afterDigits? 2 cs
    let cs ← after? '-' cs
    afterDigits? 2 cs
  rest? == some []

/-- Whether a text reads as a date and a time. -/
def isDateTime (cs : List Char) : Bool :=
  let rest? := do
    let cs ← afterDigits? 4 cs
    let cs ← after? '-' cs
    let cs ← afterOneOrTwo? cs
    let cs ← after? '-' cs
    afterOneOrTwo? cs
  match rest? with
  | some (c :: rest) =>
    if c = 'T' ∨ c = 't' then isTime rest
    else isInlineBlank c && isTime (rest.dropWhile isInlineBlank)
  | _ => false

/-! ## resolution -/

/-- The words for truth values. -/
def boolWords : List (List Char) :=
  ["yes", "Yes", "YES", "no", "No", "NO", "true", "True", "TRUE", "false", "False", "FALSE",
   "on", "On", "ON", "off", "Off", "OFF"].map String.toList

/-- The words for the absent value. -/
def nullWords : List (List Char) := ["~", "null", "Null", "NULL"].map String.toList

/-- A text without a line break at its end, unless it is nothing else. -/
def dropLastBreak (cs : List Char) : List Char :=
  if 1 < cs.length ∧ cs.getLast? = some '\n' then cs.dropLast else cs

/-- The tag that the text of a plain scalar suggests. -/
def ofPlain (text : List Char) : Tag :=
  let cs := dropLastBreak text
  if cs.isEmpty then .null
  else if boolWords.contains cs then .bool
  else if isFloat cs then .float
  else if isInt cs then .int
  else if cs = ['<', '<'] then .merge
  else if nullWords.contains cs then .null
  else if isDate cs || isDateTime cs then .timestamp
  else if cs = ['='] then .value
  else if cs = ['!'] ∨ cs = ['&'] ∨ cs = ['*'] then .other (standardStart ++ "yaml".toList)
  else .text

end Tag

end ControlPlane.Yaml
