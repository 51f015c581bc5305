import ControlPlane.Shape.Basic
import ControlPlane.Text.Utf8

/-!
# Reading by shape

`Shape.read` turns a configuration value into a value of the shape's type.  Reading is lenient about
leaves: a text of digits is an integer, one and `yes` are true.  It goes through all parts and
collects every problem in order: fields as they are declared, then unknown keys as they are given.
A quantity beyond decimal arithmetic is no problem of the value but a fault that ends the reading.
-/

namespace ControlPlane

/-- Why a value does not fit a shape. -/
inductive Rejection where
  /-- The value has these problems. -/
  | problems (ps : List Problem)
  /-- A quantity could not be computed. -/
  | fault (f : ArithmeticFault)
  deriving DecidableEq, Repr

/-- The outcome of reading. -/
abbrev Reading (α : Type) := Except Rejection α

namespace Reading

variable {α β : Type}

/-- A reading that finds one problem of the value itself. -/
def refuse (kind : ProblemKind) : Reading α := .error (.problems [.here kind])

/-- Two readings, the problems of both. -/
def both (x : Reading α) (y : Reading β) : Reading (α × β) :=
  match x, y with
  | .ok a, .ok b => .ok (a, b)
  | .error (.fault f), _ => .error (.fault f)
  | _, .error (.fault f) => .error (.fault f)
  | .error (.problems ps), .error (.problems qs) => .error (.problems (ps ++ qs))
  | .error (.problems ps), .ok _ => .error (.problems ps)
  | .ok _, .error (.problems qs) => .error (.problems qs)

/-- Readings in order, the problems of all. -/
def all : List (Reading α) → Reading (List α)
  | [] => .ok []
  | x :: xs => (both x (all xs)).map fun p => p.1 :: p.2

/-- A reading of a part, its problems seen from the whole. -/
def under (place : Place) (x : Reading α) : Reading α :=
  x.mapError fun
    | .problems ps => .problems (ps.map (.under place))
    | .fault f => .fault f

/-- The readings of a list's items, each under its index from `i` on. -/
def allFrom (i : Nat) : List (Reading α) → List (Reading α)
  | [] => []
  | x :: xs => x.under (.index i) :: allFrom (i + 1) xs

end Reading

/-! ## leaves -/

/-- The text of a run of bytes. -/
def decodedText? (bs : List UInt8) : Option String := (Text.decodeUtf8? bs).map String.ofList

/-- The least integer beyond those of 64 bits. -/
def intLimit : Int := 9223372036854775808

/-- The place of an entry, by its key: integers of 64 bits are indexes, and other keys are told by
their text, if they have one. -/
def Scalar.place (k : Scalar) : Place :=
  match k with
  | .text s => .key s
  | .bool b => .index b.toNat
  | .int i =>
    if -intLimit ≤ i ∧ i < intLimit then .index i
    else if Integer.isPrintable i then .key k.display
    else .key "<unprintable int object>"
  | _ => .key k.display

/-- A text of at least so many characters; bytes are decoded. -/
def readText (least : Nat) (v : Value) : Reading String :=
  match v with
  | .scalar (.text s) => sized s
  | .scalar (.bytes bs) =>
    match decodedText? bs with
    | some s => sized s
    | none => .refuse .textUndecodable
  | _ => .refuse .textExpected
where
  /-- A text that is long enough. -/
  sized (s : String) : Reading String :=
    if s.length < least then .refuse (.textTooShort least) else .ok s

/-- The whole number that a float stands for; those of 64 bits and more are refused. -/
def wholeFloat (x : Binary64) : Except ProblemKind Int :=
  if !x.isFinite then .error .integerNotFinite
  else match x.toInt? with
    | none => .error .integerFractional
    | some i => if -intLimit < i ∧ i < intLimit then .ok i else .error .integerTooLong

/-- An integer written as a text. -/
def integerOfText (s : String) : Except ProblemKind Int :=
  match Integer.lenient s.toList with
  | .ok i => .ok i
  | .error .malformed => .error .integerUnreadable
  | .error .tooLong => .error .integerTooLong

/-- An integer of any kind of scalar. -/
def integerOf (v : Value) : Except ProblemKind Int :=
  match v with
  | .scalar (.int i) => .ok i
  | .scalar (.bool b) => .ok b.toNat
  | .scalar (.float x) => wholeFloat x
  | .scalar (.text s) => integerOfText s
  | .scalar (.bytes bs) =>
    match decodedText? bs with
    | some s => integerOfText s
    | none => .error .integerUnreadable
  | _ => .error .integerExpected

/-- An integer within bounds. -/
def readInteger (bounds : Bounds) (v : Value) : Reading Int :=
  match integerOf v with
  | .error kind => .refuse kind
  | .ok i =>
    match bounds.violation? i with
    | some kind => .refuse kind
    | none => .ok i

/-- The words for true. -/
def trueWords : List String := ["1", "t", "y", "on", "yes", "true"]

/-- The words for false. -/
def falseWords : List String := ["0", "f", "n", "no", "off", "false"]

/-- A truth value written as a word, in any case. -/
def boolOfText (s : String) : Reading Bool :=
  let word := String.ofList (s.toList.map Char.toLower)
  if trueWords.contains word then .ok true
  else if falseWords.contains word then .ok false
  else .refuse .boolUnreadable

/-- A truth value as a number. -/
def boolOfInt (i : Int) : Reading Bool :=
  if i = 1 then .ok true else if i = 0 then .ok false else .refuse .boolUnreadable

/-- A truth value: a word, zero or one. -/
def readBool (v : Value) : Reading Bool :=
  match v with
  | .scalar (.bool b) => .ok b
  | .scalar (.text s) => boolOfText s
  | .scalar (.bytes bs) =>
    match decodedText? bs with
    | some s => boolOfText s
    | none => .refuse .boolUnreadable
  | .scalar (.int i) =>
    if -intLimit ≤ i ∧ i < intLimit then boolOfInt i else .refuse .boolExpected
  | .scalar (.float x) =>
    match wholeFloat x with
    | .ok i => boolOfInt i
    | .error _ => .refuse .boolExpected
  | _ => .refuse .boolExpected

/-- One of several texts. -/
def readChoice {α : Type} (options : Choice α) (v : Value) : Reading α :=
  let found :=
    match v with
    | .scalar (.text s) => options.ofText? s
    | .scalar (.bytes bs) => (decodedText? bs).bind options.ofText?
    | _ => none
  match found with
  | some a => .ok a
  | none => .refuse (.noChoice options.texts)

/-- A quantity; anything but a text counts as an empty one. -/
def readQuantity (v : Value) : Reading Quantity :=
  let parsed :=
    match v with
    | .scalar (.text s) => Quantity.parse s
    | _ => .error (.unreadable v.plainText .empty)
  match parsed with
  | .ok q => .ok q
  | .error (.arithmetic f) => .error (.fault f)
  | .error (.longExponent digits) => .refuse (.refused (Quantity.longExponentMessage digits))
  | .error (.unreadable text why) => .refuse (.refused (Quantity.unreadableMessage text why.reason))

/-- A port: a text is a name, and other scalars are numbers if they can be. -/
def readPort (v : Value) : Reading Port :=
  match v with
  | .scalar (.text s) => .ok (.name s)
  | _ =>
    match integerOf v, readText 0 v with
    | .ok i, _ => .ok (.number i)
    | .error _, .ok s => .ok (.name s)
    | .error kind, .error r =>
      let number := Problem.under (.key "int") (.here kind)
      match r with
      | .fault f => .error (.fault f)
      | .problems ps => .error (.problems (number :: ps.map (.under (.key "str"))))

/-! ## lists and mappings -/

/-- The items of a value that has items. -/
def Value.items? : Value → Option (List Value)
  | .list items => some items
  | .pair a b => some [a, b]
  | .set members => some (members.map .scalar)
  | _ => none

/-- The items of a value, each read on its own. -/
def readItems {α : Type} (otherwise : ProblemKind) (item : Value → Reading α) (v : Value) :
    Reading (List α) :=
  match v.items? with
  | some vs => .all (Reading.allFrom 0 (vs.map item))
  | none => .refuse otherwise

/-- The entries of a mapping, keys and values each read on their own. -/
def readEntries {α : Type} (item : Value → Reading α) (v : Value) : Reading (Entries String α) :=
  match v with
  | .map entries =>
    .all (entries.map fun e =>
      .both (Reading.under e.1.place (Reading.under (.key "[key]") (readText 0 (.scalar e.1))))
        (Reading.under e.1.place (item e.2)))
  | _ => .refuse .mapExpected

/-! ## records -/

/-- The key that a field is given under, and its value: the key that it is written under wins. -/
def FieldKeys.find? (keys : FieldKeys) (entries : List (Scalar × Value)) :
    Option (String × Value) :=
  match Value.field? keys.key entries with
  | some v => some (keys.key, v)
  | none => (Value.field? keys.alternative entries).map fun v => (keys.alternative, v)

/-- Whether a key is one under which one of the fields is given. -/
def FieldKeys.isUsed (keys : FieldKeys) (entries : List (Scalar × Value)) (name : String) : Bool :=
  match keys.find? entries with
  | some (key, _) => key == name
  | none => false

/-- The keys of all fields. -/
def Fields.keys : {ρ : Type} → Fields ρ → List FieldKeys
  | _, .nil => []
  | _, .required keys _ rest => keys :: rest.keys
  | _, .optional keys _ rest => keys :: rest.keys
  | _, .defaulted keys _ _ rest => keys :: rest.keys

/-- What is wrong with one key of a record, if anything. -/
def keyProblem? (fields : List FieldKeys) (entries : List (Scalar × Value)) (k : Scalar) :
    Option Problem :=
  match k with
  | .text name =>
    if fields.any fun f => f.isUsed entries name then none else some ⟨[k.place], .unknownKey⟩
  | _ => some ⟨[k.place], .keyNotText⟩

/-- The check of a record's keys. -/
def readKeys (unknownKeys : UnknownKeys) (fields : List FieldKeys)
    (entries : List (Scalar × Value)) : Reading Unit :=
  match unknownKeys with
  | .ignored => .ok ()
  | .refused =>
    match entries.filterMap fun e => keyProblem? fields entries e.1 with
    | [] => .ok ()
    | ps => .error (.problems ps)

mutual

/-- A value read as the shape says. -/
def Shape.read : {α : Type} → Shape α → Value → Reading α
  | _, .text least, v => readText least v
  | _, .integer bounds, v => readInteger bounds v
  | _, .boolean, v => readBool v
  | _, .choice options, v => readChoice options v
  | _, .quantity, v => readQuantity v
  | _, .port, v => readPort v
  | _, .contribution proper, v => (proper.read v).map .proper
  | _, .list item, v => readItems .listExpected (fun w => item.read w) v
  | _, .tuple item, v => readItems .tupleExpected (fun w => item.read w) v
  | _, .map item, v => readEntries (fun w => item.read w) v
  | _, .record style fields packing, v =>
    match v with
    | .map entries =>
      (Reading.both (fields.read entries) (readKeys style.unknownKeys fields.keys entries)).map
        fun p => packing.pack p.1
    | _ => .refuse (.modelExpected style.name)

/-- The fields of a record read from its entries. -/
def Fields.read : {ρ : Type} → Fields ρ → List (Scalar × Value) → Reading ρ
  | _, .nil, _ => .ok ()
  | _, .required keys shape rest, entries =>
    Reading.both
      (match keys.find? entries with
        | some (key, v) => Reading.under (.key key) (shape.read v)
        | none => .error (.problems [⟨[.key keys.key], .missing⟩]))
      (rest.read entries)
  | _, .optional keys shape rest, entries =>
    Reading.both
      (match keys.find? entries with
        | some (key, v) =>
          if v.isNull then .ok none
          else Reading.under (.key key) ((shape.read v).map some)
        | none => .ok none)
      (rest.read entries)
  | _, .defaulted keys shape value rest, entries =>
    Reading.both
      (match keys.find? entries with
        | some (key, v) => Reading.under (.key key) (shape.read v)
        | none => .ok value)
      (rest.read entries)

end

end ControlPlane
