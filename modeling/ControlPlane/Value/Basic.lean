import ControlPlane.Number.Binary64
import ControlPlane.Text.Quoted
import ControlPlane.Value.Entries
import ControlPlane.Value.Calendar

/-!
# Configuration values

The values that a configuration file or a request can hold.  `Scalar`s have no parts and may be
keys; two of them are one key if they stand for one value, so `true`, `1` and `1.0` are one key.
Mappings keep the order in which their keys were first given.

`Scalar.display` and `Value.display` are the one-line forms that messages show.
-/

namespace ControlPlane

/-- A value without parts. -/
inductive Scalar where
  | null
  | bool (b : Bool)
  | int (i : Int)
  | float (x : Binary64)
  | text (s : String)
  | bytes (bs : List UInt8)
  | date (d : Date)
  | timestamp (t : Timestamp)
  deriving DecidableEq, Repr

namespace Scalar

/-! ## keys -/

/-- The exact integer that a scalar stands for, if it does. -/
def integer? : Scalar → Option Int
  | .bool b => some b.toNat
  | .int i => some i
  | .float x => x.toInt?
  | _ => none

/-- Whether two scalars are one key. -/
def sameKey (a b : Scalar) : Bool :=
  match a, b with
  | .timestamp t, .timestamp u => t.sameMoment u
  | _, _ =>
    match a.integer?, b.integer? with
    | some i, some j => i == j
    | none, none => a == b
    | _, _ => false

/-- Whether a scalar is a text. -/
def isText : Scalar → Bool
  | .text _ => true
  | _ => false

/-- A text is one key with itself and with nothing else. -/
theorem sameKey_text (k : Scalar) (name : String) : k.sameKey (.text name) = (k == .text name) := by
  cases k with
  | float x => cases h : x.toInt? <;> simp [sameKey, integer?, h]
  | _ => simp [sameKey, integer?]

theorem text_sameKey (name : String) (k : Scalar) :
    (Scalar.text name).sameKey k = (.text name == k) := by
  cases k with
  | float x => cases h : x.toInt? <;> simp [sameKey, integer?, h]
  | _ => simp [sameKey, integer?]

/-! ## display -/

/-- A date in a message. -/
def displayDate (d : Date) : String :=
  "datetime.date(" ++ toString d.year ++ ", " ++ toString d.month ++ ", " ++ toString d.day ++ ")"

/-- A distance from universal time in a message: whole days, rounded down, and seconds. -/
def displayOffset (minutes : Int) : String :=
  if minutes = 0 then "datetime.timezone.utc"
  else
    let days := minutes.fdiv 1440
    let seconds := minutes.fmod 1440 * 60
    let parts :=
      (if days = 0 then [] else ["days=" ++ toString days]) ++
        (if seconds = 0 then [] else ["seconds=" ++ toString seconds])
    "datetime.timezone(datetime.timedelta(" ++ String.intercalate ", " parts ++ "))"

/-- A timestamp in a message: zero seconds and microseconds at the end are left out. -/
def displayTimestamp (t : Timestamp) : String :=
  let parts :=
    [t.date.year, t.date.month, t.date.day, t.hour, t.minute] ++
      (if t.second = 0 ∧ t.microsecond = 0 then []
       else if t.microsecond = 0 then [t.second]
       else [t.second, t.microsecond])
  "datetime.datetime(" ++ String.intercalate ", " (parts.map toString) ++
    (match t.offset with
      | some m => ", tzinfo=" ++ displayOffset m
      | none => "") ++ ")"

/-- A scalar in a message. -/
def display : Scalar → String
  | .null => "None"
  | .bool true => "True"
  | .bool false => "False"
  | .int i => toString i
  | .float x => x.toText
  | .text s => Text.quoted s
  | .bytes bs => Text.quotedBytes bs
  | .date d => displayDate d
  | .timestamp t => displayTimestamp t

end Scalar

/-- A configuration value. -/
inductive Value where
  | scalar (s : Scalar)
  | list (items : List Value)
  | pair (first second : Value)
  /-- A set, its members in the order in which they are gone through. -/
  | set (members : List Scalar)
  | map (entries : List (Scalar × Value))
  deriving Repr

namespace Value

/-- The absent value. -/
abbrev null : Value := .scalar .null
/-- A truth value. -/
abbrev bool (b : Bool) : Value := .scalar (.bool b)
/-- An integer. -/
abbrev int (i : Int) : Value := .scalar (.int i)
/-- A floating-point number. -/
abbrev float (x : Binary64) : Value := .scalar (.float x)
/-- A text. -/
abbrev text (s : String) : Value := .scalar (.text s)

/-- Whether the value is absent. -/
def isNull : Value → Bool
  | .scalar .null => true
  | _ => false

mutual
/-- A value in a message. -/
def display : Value → String
  | .scalar s => s.display
  | .list items => "[" ++ String.intercalate ", " (displayAll items) ++ "]"
  | .pair a b => "(" ++ a.display ++ ", " ++ b.display ++ ")"
  | .set [] => "set()"
  | .set members => "\x7b" ++ String.intercalate ", " (members.map Scalar.display) ++ "\x7d"
  | .map entries => "\x7b" ++ String.intercalate ", " (displayEntries entries) ++ "\x7d"
/-- Every value of a list in a message. -/
def displayAll : List Value → List String
  | [] => []
  | v :: vs => v.display :: displayAll vs
/-- Every entry of a mapping in a message. -/
def displayEntries : List (Scalar × Value) → List String
  | [] => []
  | (k, v) :: es => (k.display ++ ": " ++ v.display) :: displayEntries es
end

/-- A value as the text it is given as: a text stands for itself. -/
def plainText : Value → String
  | .scalar (.text s) => s
  | v => v.display

end Value

/-! ## mappings -/

namespace Value

/-- A mapping with the given entries, a later one replacing an earlier one of the same key. -/
def ofEntries (entries : List (Scalar × Value)) : Value :=
  .map (Entries.putAll Scalar.sameKey entries [])

/-- The value under a text key of a mapping's entries. -/
def field? (name : String) (entries : List (Scalar × Value)) : Option Value :=
  Entries.get? (· == ·) (.text name) entries

end Value

end ControlPlane
