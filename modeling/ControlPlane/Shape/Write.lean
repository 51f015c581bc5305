import ControlPlane.Shape.Basic

/-!
# Writing by shape

`Shape.write` gives the wire form of a value: records as objects with their fields in order, under
the keys they are written under, absent ones left out or kept as nulls.
-/

namespace ControlPlane

namespace Port

/-- The wire form of a port. -/
def toWire : Port → Wire
  | .number i => .int i
  | .name s => .text s

end Port

/-- The entry of an absent value. -/
def Absent.entry (absent : Absent) (key : String) : List (String × Wire) :=
  match absent with
  | .omitted => []
  | .kept => [(key, .null)]

mutual

/-- The wire form of a value. -/
def Shape.write : {α : Type} → Shape α → α → Wire
  | _, .text _, s => .text s
  | _, .integer _, i => .int i
  | _, .boolean, b => .bool b
  | _, .choice options, a => .text (options.text a)
  | _, .quantity, q => .text q.text
  | _, .port, p => p.toWire
  | _, .contribution proper, c =>
    match c with
    | .proper a => proper.write a
    | .other v => v.toWire
  | _, .list item, xs => .list (xs.map fun x => item.write x)
  | _, .tuple item, xs => .list (xs.map fun x => item.write x)
  | _, .map item, es => .object (es.map fun e => (e.1, item.write e.2))
  | _, .record style fields packing, a => .object (fields.write style.absent (packing.unpack a))

/-- The entries of a record's fields. -/
def Fields.write : {ρ : Type} → Fields ρ → Absent → ρ → List (String × Wire)
  | _, .nil, _, _ => []
  | _, .required keys shape rest, absent, (a, r) => (keys.key, shape.write a) :: rest.write absent r
  | _, .optional keys shape rest, absent, (a, r) =>
    (match a with
      | none => absent.entry keys.key
      | some a => [(keys.key, shape.write a)]) ++ rest.write absent r
  | _, .defaulted keys shape _ rest, absent, (a, r) =>
    (keys.key, shape.write a) :: rest.write absent r

end

end ControlPlane
