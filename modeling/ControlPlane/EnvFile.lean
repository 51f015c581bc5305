import ControlPlane.Interpolation
import ControlPlane.Text.Blank

/-!
# Files of variables

A file of variables has one binding a line: a name, and a value behind an equals sign.  Values are
plain up to the end of the line or a comment, or stand in quotes and may then have several lines and
escapes.  A line that is no binding is skipped.

The grammar is that of dotenv 1.2.4, and earlier releases took two points of it otherwise.  A
comment may stand right behind the blanks that follow an equals sign, and the value is then empty.
In quotes a backslash takes the next character with it for good, so a quote behind one never closes,
also where no other one is left to do so.

Values refer to other variables as `${NAME}` or `${NAME:-text}`: to bindings above them, and else to
the variables of the process.  `EnvFile.read` gives the bindings that have values; their order is
that of the first binding of each name.

The readers take the text from a place on.  Where one gets stuck, what is left from there decides
how much is skipped, so `Attempt` keeps it.
-/

namespace ControlPlane.EnvFile

open Text

/-- The outcome of a reader: what was read and what is left, or what is left where it got stuck. -/
abbrev Attempt (α : Type) := Except (List Char) (α × List Char)

/-- A line of the file: a name, and its value unless there is no equals sign. -/
structure Binding where
  name : String
  value : Option String
  deriving DecidableEq, Repr

/-! ## characters -/

/-- A character that ends a line. -/
def endsLine (c : Char) : Bool := c == '\n' || c == '\r'

/-- White space within a line. -/
def isGap (c : Char) : Bool := isBlank c && !endsLine c

/-- A character of a name without quotes. -/
def isNameChar (c : Char) : Bool := !(c == '=' || c == '#' || isBlank c)

/-- What is left behind the line break at a place. -/
def afterBreak (cs : List Char) : List Char :=
  match cs with
  | '\r' :: '\n' :: rest => rest
  | c :: rest => if endsLine c then rest else cs
  | [] => []

/-- What is left behind the line of a place that readers got stuck on. -/
def afterLine (cs : List Char) : List Char :=
  match cs.dropWhile fun c => !endsLine c with
  | _ :: rest => rest
  | [] => []

/-! ## names -/

/-- What is left behind the word `export` in front of a name. -/
def afterExport (cs : List Char) : List Char :=
  if "export".toList.isPrefixOf cs then
    match cs.drop 6 with
    | c :: rest => if isGap c then rest.dropWhile isGap else cs
    | [] => cs
  else cs

/-- The name of a binding; a comment has none. -/
def name (cs : List Char) : Attempt (Option String) :=
  match cs with
  | '#' :: _ => .ok (none, cs)
  | '\'' :: rest =>
    let word := rest.takeWhile (· != '\'')
    match rest.dropWhile (· != '\'') with
    | _ :: after => if word.isEmpty then .error cs else .ok (some (String.ofList word), after)
    | [] => .error cs
  | _ =>
    let word := cs.takeWhile isNameChar
    if word.isEmpty then .error cs else .ok (some (String.ofList word), cs.dropWhile isNameChar)

/-! ## values -/

/-- The escapes between single quotes. -/
def singleEscape? (c : Char) : Option Char :=
  if c = '\\' ∨ c = '\'' then some c else none

/-- The escapes between double quotes. -/
def doubleEscape? (c : Char) : Option Char :=
  match c with
  | 'a' => some '\x07'
  | 'b' => some '\x08'
  | 'f' => some '\x0c'
  | 'n' => some '\n'
  | 'r' => some '\r'
  | 't' => some '\t'
  | 'v' => some '\x0b'
  | c => if c = '\\' ∨ c = '\'' ∨ c = '"' then some c else none

/-- The text between quotes, from behind the opening one, with its escapes resolved, and what is
left behind the closing quote.  A backslash takes the next character with it, whatever that is, so a
quote behind it does not close; where the two are no escape, both are text. -/
def quoted? (escape? : Char → Option Char) (quote : Char) :
    List Char → Option (List Char × List Char)
  | [] => none
  | '\\' :: c :: rest => do
    let (text, after) ← quoted? escape? quote rest
    return (((escape? c).elim ['\\', c] ([·])) ++ text, after)
  | c :: rest =>
    if c = quote then some ([], rest)
    else do
      let (text, after) ← quoted? escape? quote rest
      return (c :: text, after)

/-- A line up to a comment, which has white space in front of it. -/
def withoutComment : List Char → List Char
  | [] => []
  | c :: rest =>
    if isBlank c && (rest.dropWhile isBlank).head? == some '#' then []
    else c :: withoutComment rest

/-- The value of a binding, from behind the equals sign: a text in quotes, or else the line up to a
comment, without the white space around it. -/
def value (cs : List Char) : Attempt String :=
  match cs.dropWhile isGap with
  | '\'' :: rest => closed (quoted? singleEscape? '\'' rest)
  | '"' :: rest => closed (quoted? doubleEscape? '"' rest)
  | _ =>
    let line := cs.takeWhile fun c => !endsLine c
    .ok (String.ofList (trim isBlank (withoutComment line)), cs.drop line.length)
where
  /-- A text in quotes; one whose quote is not closed is stuck in front of it. -/
  closed : Option (List Char × List Char) → Attempt String
    | some (text, after) => .ok (String.ofList text, after)
    | none => .error (cs.dropWhile isGap)

/-! ## lines -/

/-- What is left behind a comment and the end of its line. -/
def endOfLine (cs : List Char) : Attempt Unit :=
  let rest :=
    match cs.dropWhile isGap with
    | '#' :: rest => rest.dropWhile fun c => !endsLine c
    | _ => cs
  let after := rest.dropWhile isGap
  if after.head?.all endsLine then .ok ((), afterBreak after) else .error rest

/-- The binding at a place that is not blank; a comment is none. -/
def binding (cs : List Char) : Except (List Char) (Option Binding × List Char) := do
  let (name, cs) ← name (afterExport cs)
  let cs := cs.dropWhile isGap
  let (value, cs) ←
    match cs with
    | '=' :: rest => (value rest).map fun (s, cs) => (some s, cs)
    | _ => .ok (none, cs)
  let ((), cs) ← endOfLine cs
  return (name.map fun n => ⟨n, value⟩, cs)

/-- The bindings from a place on; every round passes a character. -/
def bindingsFrom : (fuel : Nat) → List Char → List Binding
  | 0, _ => []
  | fuel + 1, cs =>
    match cs.dropWhile isBlank with
    | [] => []
    | rest =>
      match binding rest with
      | .ok (some b, after) => b :: bindingsFrom fuel after
      | .ok (none, after) => bindingsFrom fuel after
      | .error stuck => bindingsFrom fuel (afterLine stuck)

/-- The bindings of a text.  A byte order mark in front is no part of it. -/
def bindings (text : List Char) : List Binding :=
  let text :=
    match text with
    | c :: rest => if c.toNat = 0xFEFF then rest else text
    | [] => []
  bindingsFrom (text.length + 1) text

/-! ## references to variables -/

/-- A reference to a variable, from behind its dollar sign: the name, the text that stands in for an
unset variable, and the number of characters. -/
def reference? (cs : List Char) : Option (String × String × Nat) :=
  match cs with
  | '\x7b' :: rest =>
    let name := rest.takeWhile fun c => !(c == '\x7d' || c == ':')
    match rest.drop name.length with
    | '\x7d' :: _ => some (String.ofList name, "", name.length + 2)
    | ':' :: '-' :: more =>
      let text := more.takeWhile (· != '\x7d')
      if (more.drop text.length).isEmpty then none
      else some (String.ofList name, String.ofList text, name.length + text.length + 4)
    | _ => none
  | _ => none

/-- A text after its next `skip` characters, with its references replaced. -/
def expandAfter (value? : String → Option String) : (skip : Nat) → List Char → List Char
  | _, [] => []
  | skip + 1, _ :: cs => expandAfter value? skip cs
  | 0, c :: cs =>
    if c = '$' then
      match reference? cs with
      | some (name, text, size) => ((value? name).getD text).toList ++ expandAfter value? size cs
      | none => c :: expandAfter value? 0 cs
    else c :: expandAfter value? 0 cs

/-- A text with its references replaced. -/
def expand (value? : String → Option String) (s : String) : String :=
  String.ofList (expandAfter value? 0 s.toList)

/-- The value of a name for the bindings below: one without a value stands for an empty text. -/
def valueFor (process : Variables) (known : Entries String (Option String)) (name : String) :
    Option String :=
  match Entries.get? (· == ·) name known with
  | some value => some (value.getD "")
  | none => process.value? name

/-- The bindings with their references replaced, one after the other. -/
def resolve (process : Variables) (bs : List Binding) : Entries String (Option String) :=
  bs.foldl
    (fun known b =>
      Entries.put (· == ·) b.name (b.value.map (expand (valueFor process known))) known)
    []

/-- The variables of a text. -/
def read (process : Variables) (text : List Char) : Variables :=
  (resolve process (bindings text)).filterMap fun e => e.2.map fun v => (e.1, v)

end ControlPlane.EnvFile
