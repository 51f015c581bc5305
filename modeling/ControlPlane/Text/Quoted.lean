import ControlPlane.Text.Printable
import ControlPlane.Text.Hex

/-!
# Quoted text in messages

Messages quote a text so that it reads as one line: single quotes, or double quotes if the text
holds a single quote and no double one; the backslash and the quote in use are escaped, unprintable
characters are written by code.
-/

namespace ControlPlane.Text

/-- The quotation mark that a text is quoted with. -/
def quoteMark (cs : List Char) : Char :=
  if cs.contains '\'' && !cs.contains '"' then '"' else '\''

/-- One character inside quotes. -/
def quotedChar (mark c : Char) : List Char :=
  if c = mark ∨ c = '\\' then ['\\', c]
  else if c = '\n' then ['\\', 'n']
  else if c = '\r' then ['\\', 'r']
  else if c = '\t' then ['\\', 't']
  else if isPrintable c then [c]
  else if c.toNat ≤ 0xFF then '\\' :: 'x' :: hexText .lower 2 c.toNat
  else if c.toNat ≤ 0xFFFF then '\\' :: 'u' :: hexText .lower 4 c.toNat
  else '\\' :: 'U' :: hexText .lower 8 c.toNat

/-- A text in quotes, as messages show it. -/
def quoted (s : String) : String :=
  let cs := s.toList
  let mark := quoteMark cs
  String.ofList (mark :: cs.flatMap (quotedChar mark) ++ [mark])

/-- One byte inside quotes: printable ASCII stands for itself. -/
def quotedByte (mark : Char) (b : UInt8) : List Char :=
  let c := Char.ofNat b.toNat
  if c = mark ∨ c = '\\' then ['\\', c]
  else if c = '\n' then ['\\', 'n']
  else if c = '\r' then ['\\', 'r']
  else if c = '\t' then ['\\', 't']
  else if 0x20 ≤ b.toNat ∧ b.toNat < 0x7F then [c]
  else '\\' :: 'x' :: hexText .lower 2 b.toNat

/-- Bytes in quotes, marked by a leading `b`. -/
def quotedBytes (bs : List UInt8) : String :=
  let mark := quoteMark (bs.map fun b => Char.ofNat b.toNat)
  String.ofList ('b' :: mark :: bs.flatMap (quotedByte mark) ++ [mark])

end ControlPlane.Text
