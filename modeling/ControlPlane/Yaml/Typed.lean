import ControlPlane.Text.Lower
import ControlPlane.Value.Basic
import ControlPlane.Yaml.Tag
import ControlPlane.Yaml.Token

/-!
# Typed scalars

The value that the text of a scalar has under a tag.  A plain scalar has its tag from its text, but
any tag can be written in front of any text, so every conversion may fail in a way of its own.
-/

namespace ControlPlane.Yaml

/-- A text without its underscores. -/
def withoutUnderscores (cs : List Char) : List Char := cs.filter (· != '_')

/-- A text split at every colon. -/
def splitColons (cs : List Char) : List (List Char) :=
  match cs with
  | [] => [[]]
  | c :: rest =>
    if c = ':' then [] :: splitColons rest
    else
      match splitColons rest with
      | first :: others => (c :: first) :: others
      | [] => [[c]]

/-! ## integers -/

/-- A grouped integer of a radix. -/
def intOf (r : Integer.Radix) (cs : List Char) : Except Fault Int :=
  (Integer.grouped r cs).mapError fun _ => .noInteger

/-- An unsigned integer: its start tells the radix, and colons part sexagesimal places. -/
def unsignedInt (cs : List Char) : Except Fault Int :=
  match cs with
  | [] => .error .emptyNumber
  | ['0'] => .ok 0
  | '0' :: 'b' :: rest => intOf .binary rest
  | '0' :: 'x' :: rest => intOf .hexadecimal rest
  | '0' :: _ => intOf .octal cs
  | _ =>
    if cs.contains ':' then
      ((splitColons cs).mapM (intOf .decimal)).map fun places =>
        places.foldl (fun n place => n * 60 + place) 0
    else intOf .decimal cs

/-- An integer. -/
def toInt (text : List Char) : Except Fault Int :=
  match withoutUnderscores text with
  | [] => .error .emptyNumber
  | '-' :: rest => (unsignedInt rest).map fun n => -n
  | '+' :: rest => unsignedInt rest
  | cs => unsignedInt cs

/-! ## floating-point numbers -/

/-- A floating-point number in its usual form. -/
def floatOf (cs : List Char) : Except Fault Binary64 :=
  match Binary64.ofText? cs with
  | some x => .ok x
  | none => .error .noFloat

/-- The sum of sexagesimal places, the last one first, each times a power of sixty. -/
def sexagesimal : (power : Nat) → (sum : Binary64) → List Binary64 → Except Fault Binary64
  | _, sum, [] => .ok sum
  | power, sum, place :: places =>
    match Binary64.ofInt? power with
    | some factor => sexagesimal (power * 60) (sum.add (place.mul factor)) places
    | none => .error .hugeNumber

/-- An unsigned floating-point number. -/
def unsignedFloat (cs : List Char) : Except Fault Binary64 :=
  if cs = ".inf".toList then .ok (.infinity false)
  else if cs.contains ':' then do
    let places ← (splitColons cs).mapM floatOf
    sexagesimal 1 .zero places.reverse
  else floatOf cs

/-- Whether the text of a floating-point number has a minus sign, and what follows the sign; the
case of letters and underscores do not matter. -/
def floatParts (text : List Char) : Bool × List Char :=
  Integer.splitSign ((withoutUnderscores text).map Char.toLower)

/-- Whether a text is the word for a value that is no number. -/
def isNanWord (text : List Char) : Bool := (floatParts text).2 == ".nan".toList

/-- A floating-point number. -/
def toFloat (text : List Char) : Except Fault Binary64 :=
  let (negative, unsigned) := floatParts text
  if (withoutUnderscores text).isEmpty then .error .emptyNumber
  else if isNanWord text then .ok .nan
  else (unsignedFloat unsigned).map fun x => if negative then x.neg else x

/-! ## truth values -/

/-- A truth value. -/
def toBool (text : List Char) : Except Fault Bool :=
  let word := String.ofList (Text.lower text)
  if ["yes", "true", "on"].contains word then .ok true
  else if ["no", "false", "off"].contains word then .ok false
  else .error (.noBool word)

/-! ## bytes -/

/-- The value of a character of base 64. -/
def base64Value? (c : Char) : Option Nat :=
  if 'A' ≤ c ∧ c ≤ 'Z' then some (c.toNat - 'A'.toNat)
  else if 'a' ≤ c ∧ c ≤ 'z' then some (c.toNat - 'a'.toNat + 26)
  else if '0' ≤ c ∧ c ≤ '9' then some (c.toNat - '0'.toNat + 52)
  else if c = '+' then some 62
  else if c = '/' then some 63
  else none

/-- The bytes of a text of base 64, with the values of a started group of four and the padding
behind them.  A group ends where it is full or padded; what is no character of base 64 is skipped,
and the text must not end within a group. -/
def base64Bytes (group : List Nat) (padding : Nat) : List Char → Except Fault (List UInt8)
  | [] => if group.isEmpty then .ok [] else .error .malformed
  | c :: rest =>
    if c = '=' then
      if 2 ≤ group.length ∧ 4 ≤ group.length + padding + 1 then .ok []
      else base64Bytes group (if 2 ≤ group.length then padding + 1 else padding) rest
    else
      match base64Value? c, group with
      | none, _ => base64Bytes group padding rest
      | some v, [] => base64Bytes [v] 0 rest
      | some v, [a] => (base64Bytes [a, v] 0 rest).map (byte (4 * a + v / 16) :: ·)
      | some v, [a, b] => (base64Bytes [a, b, v] 0 rest).map (byte (16 * b + v / 4) :: ·)
      | some v, _ :: _ :: last :: _ => (base64Bytes [] 0 rest).map (byte (64 * last + v) :: ·)
where
  /-- The lowest eight bits of a number. -/
  byte (n : Nat) : UInt8 := UInt8.ofNat (n % 256)

/-- Bytes. -/
def toBytes (text : List Char) : Except Fault (List UInt8) :=
  if text.all (·.toNat < 128) then base64Bytes [] 0 text else .error .malformed

/-! ## dates -/

/-- One or two digits of a number, and what comes after them. -/
def oneOrTwoDigits? (cs : List Char) : Option (Nat × List Char) :=
  match cs.span Integer.isPlainDigit with
  | ([], _) => none
  | ([a], rest) => some (Integer.plainValue [a], rest)
  | (a :: b :: more, rest) => some (Integer.plainValue [a, b], more ++ rest)

/-- So many digits of a number, and what comes after them. -/
def digits? (n : Nat) (cs : List Char) : Option (Nat × List Char) :=
  (Tag.afterDigits? n cs).map fun rest => (Integer.plainValue (cs.take n), rest)

/-- A year, a month and a day, and what comes after them. -/
def date? (cs : List Char) : Option (Date × List Char) := do
  let (year, cs) ← digits? 4 cs
  let cs ← Tag.after? '-' cs
  let (month, cs) ← oneOrTwoDigits? cs
  let cs ← Tag.after? '-' cs
  let (day, cs) ← oneOrTwoDigits? cs
  return (⟨year, month, day⟩, cs)

/-- The gap between a date and a time, and what comes after it. -/
def afterDate? (cs : List Char) : Option (List Char) :=
  match cs with
  | c :: rest =>
    if c = 'T' ∨ c = 't' then some rest
    else if Tag.isInlineBlank c then some (rest.dropWhile Tag.isInlineBlank)
    else none
  | [] => none

/-- The microseconds that the digits of a fraction stand for; more than six are cut off. -/
def microseconds (digits : List Char) : Nat :=
  let shown := digits.take 6
  Integer.plainValue shown * Nat.pow 10 (6 - shown.length)

/-- A fraction of a second, and what comes after it. -/
def fraction (cs : List Char) : Nat × List Char :=
  match cs with
  | '.' :: rest =>
    (microseconds (rest.takeWhile Integer.isPlainDigit), rest.dropWhile Integer.isPlainDigit)
  | _ => (0, cs)

/-- A distance from universal time in minutes at the end of a text. -/
def offset? (cs : List Char) : Option (Option Int) :=
  if cs.isEmpty then some none
  else
    match cs.dropWhile Tag.isInlineBlank with
    | ['Z'] => some (some 0)
    | sign :: rest =>
      if sign = '+' ∨ sign = '-' then do
        let (hours, rest) ← oneOrTwoDigits? rest
        let minutes ←
          match rest with
          | [] => some 0
          | ':' :: rest =>
            match digits? 2 rest with
            | some (m, []) => some m
            | _ => none
          | _ => none
        let total : Int := (hours * 60 + minutes : Nat)
        return some (if sign = '-' then -total else total)
      else none
    | [] => none

/-- A time of a day up to the end of a text. -/
def timestamp? (date : Date) (cs : List Char) : Option Timestamp := do
  let cs ← afterDate? cs
  let (hour, cs) ← oneOrTwoDigits? cs
  let cs ← Tag.after? ':' cs
  let (minute, cs) ← digits? 2 cs
  let cs ← Tag.after? ':' cs
  let (second, cs) ← digits? 2 cs
  let (microsecond, cs) := fraction cs
  let offset ← offset? cs
  return { date, hour, minute, second, microsecond, offset }

/-- A date, or a date and a time. -/
def toMoment (text : List Char) : Except Fault Scalar :=
  match date? (if text.getLast? = some '\n' then text.dropLast else text) with
  | none => .error .noDate
  | some (d, []) => if d.isValid then .ok (.date d) else .error .impossibleDate
  | some (d, rest) =>
    match timestamp? d rest with
    | none => .error .noDate
    | some t => if t.isValid then .ok (.timestamp t) else .error .impossibleDate

/-! ## all tags -/

/-- The value of a text under a tag of scalars. -/
def Tag.read (tag : Tag) (text : List Char) : Except Fault Scalar :=
  match tag with
  | .null => .ok .null
  | .int => (toInt text).map .int
  | .float => (toFloat text).map .float
  | .bool => (toBool text).map .bool
  | .binary => (toBytes text).map .bytes
  | .timestamp => toMoment text
  | _ => .ok (.text (String.ofList text))

end ControlPlane.Yaml
