import ControlPlane.Value.Basic

/-!
# The order of sets

A set does not keep the order in which its members are written: every process goes through it in an
order of its own, a `SetOrder`.  What a value is written as and this order make up the value that
the process sees.

Main statement: where no set has two members, there is only one order
(`SetOrder.entries_of_haveOneOrder`).
-/

namespace ControlPlane

/-- The order in which a process goes through sets, given their members as they are written. -/
structure SetOrder where
  arrange : List Scalar → List Scalar
  perm (members : List Scalar) : (arrange members).Perm members

namespace SetOrder

/-- The order in which members are written. -/
def asWritten : SetOrder := ⟨id, .refl⟩

mutual
/-- A value that is written, with the members of its sets in this order. -/
def value (order : SetOrder) : Value → Value
  | .scalar s => .scalar s
  | .list items => .list (order.values items)
  | .pair a b => .pair (order.value a) (order.value b)
  | .set members => .set (order.arrange members)
  | .map entries => .map (order.entries entries)
/-- Every value of a list, with its sets in this order. -/
def values (order : SetOrder) : List Value → List Value
  | [] => []
  | v :: vs => order.value v :: order.values vs
/-- Every entry of a mapping, with its sets in this order. -/
def entries (order : SetOrder) : List (Scalar × Value) → List (Scalar × Value)
  | [] => []
  | (k, v) :: es => (k, order.value v) :: order.entries es
end

end SetOrder

/-! ## values with only one order -/

namespace Value

mutual
/-- Whether no set in a value has two members. -/
def hasOneOrder : Value → Bool
  | .scalar _ => true
  | .list items => allHaveOneOrder items
  | .pair a b => a.hasOneOrder && b.hasOneOrder
  | .set members => members.length ≤ 1
  | .map entries => entriesHaveOneOrder entries
/-- Whether no set in the values of a list has two members. -/
def allHaveOneOrder : List Value → Bool
  | [] => true
  | v :: vs => v.hasOneOrder && allHaveOneOrder vs
/-- Whether no set in the entries of a mapping has two members. -/
def entriesHaveOneOrder : List (Scalar × Value) → Bool
  | [] => true
  | (_, v) :: es => v.hasOneOrder && entriesHaveOneOrder es
end

end Value

namespace SetOrder

variable (order : SetOrder)

/-- A set with at most one member is gone through as it is written. -/
theorem arrange_of_length_le_one {members : List Scalar} (h : members.length ≤ 1) :
    order.arrange members = members := by
  have hperm := order.perm members
  match members, h with
  | [], _ => exact hperm.eq_nil
  | [s], _ => exact List.perm_singleton.mp hperm

mutual
/-- A value whose sets have at most one member is seen as it is written. -/
theorem value_of_hasOneOrder : ∀ {v : Value}, v.hasOneOrder = true → order.value v = v
  | .scalar _, _ => rfl
  | .list _, h => by rw [value, values_of_haveOneOrder h]
  | .pair _ _, h => by
      obtain ⟨ha, hb⟩ := Bool.and_eq_true_iff.mp h
      rw [value, value_of_hasOneOrder ha, value_of_hasOneOrder hb]
  | .set _, h => by rw [value, order.arrange_of_length_le_one (of_decide_eq_true h)]
  | .map _, h => by rw [value, entries_of_haveOneOrder h]
theorem values_of_haveOneOrder :
    ∀ {vs : List Value}, Value.allHaveOneOrder vs = true → order.values vs = vs
  | [], _ => rfl
  | _ :: _, h => by
      obtain ⟨hv, hvs⟩ := Bool.and_eq_true_iff.mp h
      rw [values, value_of_hasOneOrder hv, values_of_haveOneOrder hvs]
theorem entries_of_haveOneOrder :
    ∀ {es : List (Scalar × Value)}, Value.entriesHaveOneOrder es = true → order.entries es = es
  | [], _ => rfl
  | (_, _) :: _, h => by
      obtain ⟨hv, hes⟩ := Bool.and_eq_true_iff.mp h
      rw [entries, value_of_hasOneOrder hv, entries_of_haveOneOrder hes]
end

end SetOrder

end ControlPlane
