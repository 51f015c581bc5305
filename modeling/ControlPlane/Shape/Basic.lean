import ControlPlane.Problem
import ControlPlane.Quantity.Basic
import ControlPlane.Wire

/-!
# Shapes

A `Shape α` describes how values of the type `α` are written down: which texts, numbers, lists and
records stand for them.  One description serves reading (`Shape.read`), writing (`Shape.write`) and
the messages about what does not fit, so the three cannot disagree.

A record is a list of fields.  A field has two keys, the one it is written under and an alternative
one that is read as well.  It is required, optional (absent and null are one) or has a default.
-/

namespace ControlPlane

/-! ## leaves -/

/-- The texts that stand for the values of a finite type. -/
structure Choice (α : Type) where
  values : List α
  text : α → String
  /-- Every value is found under its own text. -/
  find : ∀ a, values.find? (fun b => text b == text a) = some a

namespace Choice

variable {α : Type}

/-- The value with the given text. -/
def ofText? (c : Choice α) (s : String) : Option α := c.values.find? fun a => c.text a == s

@[simp] theorem ofText?_text (c : Choice α) (a : α) : c.ofText? (c.text a) = some a := c.find a

/-- The texts in order. -/
def texts (c : Choice α) : List String := c.values.map c.text

end Choice

/-- What an integer may be: the bounds that are given hold, checked in this order. -/
structure Bounds where
  atLeast : Option Int
  above : Option Int
  below : Option Int
  deriving DecidableEq, Repr

namespace Bounds

/-- No bounds. -/
def none : Bounds := ⟨.none, .none, .none⟩

/-- What is wrong with an integer, if anything. -/
def violation? (b : Bounds) (i : Int) : Option ProblemKind :=
  if let some low := b.above then
    if i ≤ low then some (.notGreaterThan low) else upper b i
  else if let some low := b.atLeast then
    if i < low then some (.notAtLeast low) else upper b i
  else upper b i
where
  /-- What is wrong with an integer's upper bound. -/
  upper (b : Bounds) (i : Int) : Option ProblemKind :=
    match b.below with
    | some high => if high ≤ i then some (.notLessThan high) else .none
    | .none => .none

end Bounds

/-- A port of a container: its number or its name. -/
inductive Port where
  | number (i : Int)
  | name (s : String)
  deriving DecidableEq, Repr

/-- What stands in a field that visitors fill: a value of the field's type, or whatever a visitor
left in its place, which is kept as it is. -/
inductive Contribution (α : Type) where
  | proper (a : α)
  | other (v : Value)
  deriving Repr

/-! ## records -/

/-- What a record does with keys that none of its fields has. -/
inductive UnknownKeys where
  | ignored
  | refused
  deriving DecidableEq, Repr

/-- What a record does with absent values when it is written. -/
inductive Absent where
  | omitted
  | kept
  deriving DecidableEq, Repr

/-- The habits of a record. -/
structure RecordStyle where
  name : String
  unknownKeys : UnknownKeys
  absent : Absent
  deriving DecidableEq, Repr

/-- A type as the product of its fields. -/
structure Packing (ρ α : Type) where
  pack : ρ → α
  unpack : α → ρ
  pack_unpack : ∀ a, pack (unpack a) = a := by intros; rfl
  unpack_pack : ∀ r, unpack (pack r) = r := by intros; rfl

/-- How objects of the cluster are written: unknown keys and absent values do not matter. -/
def RecordStyle.kube (name : String) : RecordStyle := ⟨name, .ignored, .omitted⟩

/-- The keys of a field: the one it is written under, and the alternative one. -/
structure FieldKeys where
  key : String
  alternative : String
  deriving DecidableEq, Repr

/-- A field with a single key. -/
def FieldKeys.one (key : String) : FieldKeys := ⟨key, key⟩

/-- A field that is written under the first key and read under both. -/
def FieldKeys.either (key alternative : String) : FieldKeys := ⟨key, alternative⟩

mutual

/-- How values of a type are written down. -/
inductive Shape : Type → Type 1 where
  /-- A text of at least so many characters. -/
  | text (least : Nat) : Shape String
  /-- An integer within bounds. -/
  | integer (bounds : Bounds) : Shape Int
  /-- A truth value. -/
  | boolean : Shape Bool
  /-- One of several texts. -/
  | choice {α : Type} (options : Choice α) : Shape α
  /-- A quantity, by its text. -/
  | quantity : Shape Quantity
  /-- A port number or name. -/
  | port : Shape Port
  /-- What a visitor may put something else in the place of. -/
  | contribution {α : Type} (proper : Shape α) : Shape (Contribution α)
  /-- A list. -/
  | list {α : Type} (item : Shape α) : Shape (List α)
  /-- A list that is refused under the name of a tuple. -/
  | tuple {α : Type} (item : Shape α) : Shape (List α)
  /-- A free mapping from texts. -/
  | map {α : Type} (item : Shape α) : Shape (Entries String α)
  /-- A record. -/
  | record {ρ α : Type} (style : RecordStyle) (fields : Fields ρ) (packing : Packing ρ α) : Shape α

/-- The fields of a record in order. -/
inductive Fields : Type → Type 1 where
  | nil : Fields Unit
  /-- A field that must be there. -/
  | required {α ρ : Type} (keys : FieldKeys) (shape : Shape α) (rest : Fields ρ) : Fields (α × ρ)
  /-- A field that may be absent. -/
  | optional {α ρ : Type} (keys : FieldKeys) (shape : Shape α) (rest : Fields ρ) :
      Fields (Option α × ρ)
  /-- A field that has a value even if it is absent. -/
  | defaulted {α ρ : Type} (keys : FieldKeys) (shape : Shape α) (value : α) (rest : Fields ρ) :
      Fields (α × ρ)

end

end ControlPlane
