import ControlPlane.Yaml.Cursor

/-!
# Tokens

The tokens of a document, and what can go wrong while one is read.
-/

namespace ControlPlane.Yaml

/-- Why a text has no value. -/
inductive Fault where
  /-- The text is no document, or one of unknown kinds of nodes. -/
  | malformed
  /-- An escape names no code point. -/
  | noCodePoint
  /-- An escape names a number beyond 31 bits. -/
  | hugeCodePoint
  /-- A scalar is no integer, or has too many digits. -/
  | noInteger
  /-- A scalar is no floating-point number. -/
  | noFloat
  /-- A scalar that should be a number is empty. -/
  | emptyNumber
  /-- A sexagesimal number has too many places. -/
  | hugeNumber
  /-- A scalar is no word for a truth value. -/
  | noBool (word : String)
  /-- A scalar is not written like a date. -/
  | noDate
  /-- A date that the calendar does not have. -/
  | impossibleDate
  /-- A mapping in the place of a date. -/
  | mapForDate
  /-- A mapping stands for a value that is the mapping. -/
  | endless
  deriving DecidableEq, Repr

/-- A line at the start of a document that says how to read it. -/
inductive Directive where
  | version (major minor : Nat)
  | tag (handle uri : List Char)
  | other
  deriving DecidableEq, Repr

/-- A token. -/
inductive Token where
  | directive (d : Directive)
  | documentStart
  | documentEnd
  | streamEnd
  | blockSequenceStart
  | blockMappingStart
  | blockEnd
  | flowSequenceStart
  | flowSequenceEnd
  | flowMappingStart
  | flowMappingEnd
  | blockEntry
  | flowEntry
  | key
  | value
  | alias (name : List Char)
  | anchor (name : List Char)
  /-- A tag: a suffix behind a handle, or a full name. -/
  | tag (handle : Option (List Char)) (suffix : List Char)
  | scalar (plain : Bool) (text : List Char)
  /-- The rest of the text is not made of tokens. -/
  | fault (f : Fault)
  deriving DecidableEq, Repr

end ControlPlane.Yaml
