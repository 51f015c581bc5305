import ControlPlane.Proofs.RoundTrip
import Mathlib.Data.List.Forall2

/-!
# What readings depend on

The reading of a whole is put together from the readings of its parts in a few ways.  A relation of
readings that goes through these (`Reading.Congruence`) goes through all that is made of them: lists
and mappings whose parts are read alike, and records whose fields are found alike
(`Fields.read_congr`).

A field is found by what there is under its keys, and nothing else in a mapping has a part in that
(`FieldKeys.find?_congr`, `Fields.read_of_find?_eq`).
-/

namespace ControlPlane

/-! ## relations of readings -/

namespace Reading

theorem under_map {α β : Type} (f : α → β) (place : Place) (x : Reading α) :
    under place (x.map f) = (x.under place).map f := by
  cases x <;> rfl

/-- Two readings that give the same value, if any. -/
def SameValue (α : Type) (x y : Reading α) : Prop := ∀ a, x = .ok a ↔ y = .ok a

/-- A relation of readings that goes through what readings are put together from. -/
structure Congruence (R : (α : Type) → Reading α → Reading α → Prop) : Prop where
  refl {α : Type} (x : Reading α) : R α x x
  map {α β : Type} {x y : Reading α} (f : α → β) : R α x y → R β (x.map f) (y.map f)
  under {α : Type} {x y : Reading α} (place : Place) : R α x y → R α (x.under place) (y.under place)
  both {α β : Type} {x y : Reading α} {x' y' : Reading β} :
    R α x y → R β x' y' → R (α × β) (both x x') (both y y')

theorem congruence_eq : Congruence fun _ x y => x = y where
  refl _ := rfl
  map f h := congrArg _ h
  under place h := congrArg _ h
  both h h' := by rw [h, h']

theorem congruence_sameValue : Congruence SameValue where
  refl _ _ := Iff.rfl
  map f h b := by simp only [map_eq_ok_iff, h _]
  under place h a := by simp only [under_eq_ok_iff, h a]
  both h h' p := by rw [both_eq_ok_iff, both_eq_ok_iff, h p.1, h' p.2]

namespace Congruence

variable {R : (α : Type) → Reading α → Reading α → Prop} (hR : Congruence R) {α : Type}

include hR

theorem all {xs ys : List (Reading α)} (h : List.Forall₂ (R α) xs ys) :
    R (List α) (Reading.all xs) (Reading.all ys) := by
  induction h with
  | nil => exact hR.refl _
  | cons hx _ ih => exact hR.map _ (hR.both hx ih)

theorem allFrom {xs ys : List (Reading α)} (h : List.Forall₂ (R α) xs ys) (i : Nat) :
    List.Forall₂ (R α) (Reading.allFrom i xs) (Reading.allFrom i ys) := by
  induction h generalizing i with
  | nil => exact .nil
  | cons hx _ ih => exact .cons (hR.under _ hx) (ih (i + 1))

/-- Readings in a row are related if they differ in one place and are related there. -/
theorem forall₂_append_cons {β : Type} (read : β → Reading α) (before after : List β) {b c : β}
    (h : R α (read b) (read c)) :
    List.Forall₂ (R α) ((before ++ b :: after).map read) ((before ++ c :: after).map read) := by
  have hsame (bs : List β) : List.Forall₂ (R α) (bs.map read) (bs.map read) :=
    List.forall₂_same.mpr fun x _ => hR.refl x
  rw [List.map_append, List.map_append]
  exact List.rel_append (hsame before) (.cons h (hsame after))

theorem readItems {otherwise : ProblemKind} {item : Value → Reading α} {v w : Value}
    (h : R α (item v) (item w)) (before after : List Value) :
    R (List α) (readItems otherwise item (.list (before ++ v :: after)))
      (readItems otherwise item (.list (before ++ w :: after))) :=
  hR.all (hR.allFrom (hR.forall₂_append_cons item before after h) 0)

theorem readEntries {item : Value → Reading α} {v w : Value} (h : R α (item v) (item w))
    (key : Scalar) (before after : List (Scalar × Value)) :
    R (Entries String α) (readEntries item (.map (before ++ (key, v) :: after)))
      (readEntries item (.map (before ++ (key, w) :: after))) :=
  hR.all (hR.forall₂_append_cons _ before after (hR.both (hR.refl _) (hR.under _ h)))

end Congruence

end Reading

/-! ## fields that are found alike -/

namespace Shape

variable {R : (α : Type) → Reading α → Reading α → Prop} {α : Type} {s : Shape α}

/-- Two finds of a field that are read alike: there is none in either, or one in each. -/
inductive Alike (R : (α : Type) → Reading α → Reading α → Prop) (s : Shape α) :
    Option (String × Value) → Option (String × Value) → Prop
  | none : Alike R s none none
  | some {key key' : String} {v w : Value} (hnull : v.isNull = w.isNull)
      (h : R α (.under (.key key) (s.read v)) (.under (.key key') (s.read w))) :
      Alike R s (some (key, v)) (some (key', w))

namespace Alike

theorem of_eq (hR : Reading.Congruence R) {found found' : Option (String × Value)}
    (h : found = found') : s.Alike R found found' := by
  subst h
  cases found with
  | none => exact .none
  | some found => exact .some rfl (hR.refl _)

variable {found found' : Option (String × Value)}

/-- A field that is found alike is read alike, whatever stands for its absence. -/
theorem field (hR : Reading.Congruence R) (absent : Reading α) :
    s.Alike R found found' →
    R α
      (match found with
        | .some (key, v) => .under (.key key) (s.read v)
        | .none => absent)
      (match found' with
        | .some (key, v) => .under (.key key) (s.read v)
        | .none => absent)
  | .none => hR.refl _
  | .some _ h => h

/-- So is one that may be null. -/
theorem optionalField (hR : Reading.Congruence R) :
    s.Alike R found found' →
    R (Option α)
      (match found with
        | .some (key, v) =>
          if v.isNull then .ok .none else .under (.key key) ((s.read v).map .some)
        | .none => .ok .none)
      (match found' with
        | .some (key, v) =>
          if v.isNull then .ok .none else .under (.key key) ((s.read v).map .some)
        | .none => .ok .none)
  | .none => hR.refl _
  | .some hnull h => by
      dsimp only
      rw [hnull, Reading.under_map, Reading.under_map]
      split
      · exact hR.refl _
      · exact hR.map _ h

end Alike

end Shape

/-! ## fields of a record -/

/-- The fields of a record: their keys with their shapes. -/
def Fields.parts : {ρ : Type} → Fields ρ → List (FieldKeys × (α : Type) × Shape α)
  | _, .nil => []
  | _, .required keys shape rest => (keys, ⟨_, shape⟩) :: rest.parts
  | _, .optional keys shape rest => (keys, ⟨_, shape⟩) :: rest.parts
  | _, .defaulted keys shape _ rest => (keys, ⟨_, shape⟩) :: rest.parts

theorem Fields.map_fst_parts : {ρ : Type} → (fs : Fields ρ) → fs.parts.map Prod.fst = fs.keys
  | _, .nil => rfl
  | _, .required keys _ rest => congrArg (keys :: ·) rest.map_fst_parts
  | _, .optional keys _ rest => congrArg (keys :: ·) rest.map_fst_parts
  | _, .defaulted keys _ _ rest => congrArg (keys :: ·) rest.map_fst_parts

/-- Fields are read alike if each of them is found alike. -/
theorem Fields.read_congr {R : (α : Type) → Reading α → Reading α → Prop}
    (hR : Reading.Congruence R) {es es' : List (Scalar × Value)} : {ρ : Type} → (fs : Fields ρ) →
    (∀ part ∈ fs.parts, part.2.2.Alike R (part.1.find? es) (part.1.find? es')) →
    R ρ (fs.read es) (fs.read es')
  | _, .nil, _ => hR.refl _
  | _, .required keys shape rest, h => by
      obtain ⟨hfound, hrest⟩ := List.forall_mem_cons.mp h
      exact hR.both (Shape.Alike.field hR _ hfound) (rest.read_congr hR hrest)
  | _, .optional keys shape rest, h => by
      obtain ⟨hfound, hrest⟩ := List.forall_mem_cons.mp h
      exact hR.both (Shape.Alike.optionalField hR hfound) (rest.read_congr hR hrest)
  | _, .defaulted keys shape value rest, h => by
      obtain ⟨hfound, hrest⟩ := List.forall_mem_cons.mp h
      exact hR.both (Shape.Alike.field hR _ hfound) (rest.read_congr hR hrest)

section Find

variable {es es' : List (Scalar × Value)}

/-- A field is found by what there is under its keys. -/
theorem FieldKeys.find?_congr {keys : FieldKeys}
    (h : ∀ name ∈ keys.names, Value.field? name es = Value.field? name es') :
    keys.find? es = keys.find? es' := by
  rw [find?, find?, h _ key_mem_names, h _ alternative_mem_names]

/-- What fields are read as depends on what is found. -/
theorem Fields.read_of_find?_eq {ρ : Type} (fs : Fields ρ)
    (h : ∀ part ∈ fs.parts, part.1.find? es = part.1.find? es') :
    fs.read es = fs.read es' :=
  fs.read_congr Reading.congruence_eq fun part hpart => .of_eq Reading.congruence_eq (h part hpart)

end Find

end ControlPlane
