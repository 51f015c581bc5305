import ControlPlane.Shape.Read
import ControlPlane.Shape.Write
import Mathlib.Data.List.Forall2

/-!
# When a reading succeeds

A reading collects the problems of all parts, so it succeeds when every part does, and with what the
parts give:

* two readings, many readings, a reading seen from the whole (`Reading.both_eq_ok_iff`,
  `Reading.all_eq_ok_iff`, `Reading.under_eq_ok_iff`);
* lists and mappings, item by item (`readItems_eq_ok_iff`, `readEntries_eq_ok_iff`);
* leaves: what a successful reading promises, and that what was written is read back.
-/

namespace ControlPlane

namespace Reading

variable {α β : Type}

/-! ## readings put together -/

theorem map_eq_ok_iff {f : α → β} {x : Reading α} {b : β} :
    x.map f = .ok b ↔ ∃ a, x = .ok a ∧ f a = b := by
  cases x with
  | ok a => simp [Except.map]
  | error r => simp [Except.map]

/-- Where a part stands does not matter to its success. -/
@[simp] theorem under_eq_ok_iff {place : Place} {x : Reading α} {a : α} :
    x.under place = .ok a ↔ x = .ok a := by
  cases x with
  | ok a => exact Iff.rfl
  | error r => simp [under, Except.mapError]

/-- Two readings succeed together. -/
theorem both_eq_ok_iff {x : Reading α} {y : Reading β} {p : α × β} :
    both x y = .ok p ↔ x = .ok p.1 ∧ y = .ok p.2 := by
  obtain ⟨a, b⟩ := p
  cases x with
  | ok a' => cases y with
    | ok b' => simp [both]
    | error r => cases r <;> simp [both]
  | error r => cases r <;> cases y with
    | ok b' => simp [both]
    | error r' => cases r' <;> simp [both]

/-- Many readings succeed together. -/
theorem all_eq_ok_iff {xs : List (Reading α)} {as : List α} :
    all xs = .ok as ↔ List.Forall₂ (fun x a => x = .ok a) xs as := by
  induction xs generalizing as with
  | nil => simp [all, eq_comm]
  | cons x xs ih =>
      simp only [all, map_eq_ok_iff, both_eq_ok_iff, List.forall₂_cons_left_iff, ih]
      constructor
      · rintro ⟨p, ⟨hx, hxs⟩, rfl⟩
        exact ⟨p.1, p.2, hx, hxs, rfl⟩
      · rintro ⟨a, as', hx, hxs, rfl⟩
        exact ⟨(a, as'), ⟨hx, hxs⟩, rfl⟩

/-- The index of an item does not matter to its success. -/
theorem all_allFrom_eq_ok_iff {i : Nat} {xs : List (Reading α)} {as : List α} :
    all (allFrom i xs) = .ok as ↔ List.Forall₂ (fun x a => x = .ok a) xs as := by
  rw [all_eq_ok_iff]
  induction xs generalizing i as with
  | nil => rfl
  | cons x xs ih => simp only [allFrom, List.forall₂_cons_left_iff, under_eq_ok_iff, ih]

end Reading

/-! ## lists and mappings -/

section Parts

variable {α : Type} {item : Value → Reading α}

/-- A list is read when it has items and each of them is read. -/
theorem readItems_eq_ok_iff {otherwise : ProblemKind} {v : Value} {as : List α} :
    readItems otherwise item v = .ok as ↔
      ∃ vs, v.items? = some vs ∧ List.Forall₂ (fun w a => item w = .ok a) vs as := by
  unfold readItems
  cases v.items? with
  | none => simp [Reading.refuse]
  | some vs => simp [Reading.all_allFrom_eq_ok_iff, List.forall₂_map_left_iff]

/-- A mapping is read when every key and every value is. -/
theorem readEntries_eq_ok_iff {v : Value} {es : Entries String α} :
    readEntries item v = .ok es ↔
      ∃ given, v = .map given ∧
        List.Forall₂ (fun e f => readText 0 (.scalar e.1) = .ok f.1 ∧ item e.2 = .ok f.2)
          given es := by
  cases v with
  | map given =>
      simp [readEntries, Reading.all_eq_ok_iff, Reading.both_eq_ok_iff, List.forall₂_map_left_iff]
  | _ => simp [readEntries, Reading.refuse]

end Parts

/-! ## leaves -/

/-- A text that is long enough is read as it stands. -/
theorem readText_text {least : Nat} {s : String} (h : least ≤ s.length) :
    readText least (.text s) = .ok s := by
  simp [readText, readText.sized, Nat.not_lt.mpr h]

theorem readText_sized_eq_ok {least : Nat} {s t : String}
    (h : readText.sized least s = .ok t) : least ≤ t.length := by
  unfold readText.sized at h
  split at h
  · cases h
  · next hlong =>
      cases h
      exact Nat.not_lt.mp hlong

/-- A text that was read is long enough. -/
theorem length_of_readText {least : Nat} {v : Value} {s : String}
    (h : readText least v = .ok s) : least ≤ s.length := by
  unfold readText at h
  split at h
  · exact readText_sized_eq_ok h
  · split at h
    · exact readText_sized_eq_ok h
    · cases h
  · cases h

/-- An integer within the bounds is read as it stands. -/
theorem readInteger_int {bounds : Bounds} {i : Int} (h : bounds.violation? i = none) :
    readInteger bounds (.int i) = .ok i := by
  simp [readInteger, integerOf, h]

/-- An integer that was read is within the bounds. -/
theorem violation?_of_readInteger {bounds : Bounds} {v : Value} {i : Int}
    (h : readInteger bounds v = .ok i) : bounds.violation? i = none := by
  unfold readInteger at h
  split at h
  · cases h
  · split at h
    · cases h
    · next hnone =>
        cases h
        exact hnone

@[simp] theorem readChoice_text {α : Type} (options : Choice α) (a : α) :
    readChoice options (.text (options.text a)) = .ok a := by
  simp [readChoice]

@[simp] theorem readQuantity_text (q : Quantity) : readQuantity (.text q.text) = .ok q := by
  simp [readQuantity]

/-- A quantity was given by a text, and keeps it. -/
theorem eq_text_of_readQuantity {v : Value} {q : Quantity} (h : readQuantity v = .ok q) :
    v = .text q.text := by
  unfold readQuantity at h
  split at h
  · next s =>
      cases hp : Quantity.parse s with
      | ok p =>
          simp only [hp] at h
          cases h
          rw [Quantity.text_of_parse hp]
      | error flaw => cases flaw <;> simp [hp, Reading.refuse] at h
  · simp [Reading.refuse] at h

@[simp] theorem readPort_toWire (p : Port) : readPort p.toWire.toValue = .ok p := by
  cases p with
  | number i => simp [Port.toWire, Wire.toValue, readPort, integerOf]
  | name s => rfl

end ControlPlane
