import ControlPlane.Value.Basic

/-!
# The wire form of objects

What is sent to a cluster, printed or answered: nothing but nulls, truth values, integers, texts,
lists and objects with text keys in order.  A wire form is also a configuration value
(`Wire.toValue`), so whatever is written can be read again.
-/

namespace ControlPlane

/-- An object in its wire form. -/
inductive Wire where
  | null
  | bool (b : Bool)
  | int (i : Int)
  | text (s : String)
  | list (items : List Wire)
  | object (entries : List (String × Wire))
  deriving Repr, BEq

namespace Wire

mutual
/-- A wire form as a configuration value. -/
def toValue : Wire → Value
  | .null => .null
  | .bool b => .bool b
  | .int i => .int i
  | .text s => .text s
  | .list items => .list (toValues items)
  | .object entries => .map (toEntries entries)
/-- Every item of a list as a configuration value. -/
def toValues : List Wire → List Value
  | [] => []
  | w :: ws => w.toValue :: toValues ws
/-- Every entry of an object as one of a mapping. -/
def toEntries : List (String × Wire) → List (Scalar × Value)
  | [] => []
  | (k, w) :: es => (.text k, w.toValue) :: toEntries es
end

instance : Coe Wire Value := ⟨toValue⟩

/-- Whether the wire form is the absent value. -/
def isNull : Wire → Bool
  | .null => true
  | _ => false

theorem toValues_eq_map (ws : List Wire) : toValues ws = ws.map toValue := by
  induction ws with
  | nil => rfl
  | cons w ws ih => simp [toValues, ih]

theorem toEntries_eq_map (es : List (String × Wire)) :
    toEntries es = es.map fun e => (.text e.1, e.2.toValue) := by
  induction es with
  | nil => rfl
  | cons e es ih => simp [toEntries, ih]

end Wire

mutual
/-- The wire form of a value; a part that has none is written as messages show it. -/
def Value.toWire : Value → Wire
  | .scalar .null => .null
  | .scalar (.bool b) => .bool b
  | .scalar (.int i) => .int i
  | .scalar (.text s) => .text s
  | .scalar s => .text s.display
  | .list items => .list (Value.toWires items)
  | .pair a b => .list [a.toWire, b.toWire]
  | .set members => .list (members.map fun s => .text s.display)
  | .map entries => .object (Value.toWireEntries entries)
/-- The wire forms of values. -/
def Value.toWires : List Value → List Wire
  | [] => []
  | v :: vs => v.toWire :: Value.toWires vs
/-- The wire forms of a mapping's entries. -/
def Value.toWireEntries : List (Scalar × Value) → List (String × Wire)
  | [] => []
  | (k, v) :: es => ((Value.scalar k).plainText, v.toWire) :: Value.toWireEntries es
end

end ControlPlane
