import ControlPlane.Proofs.Reading

/-!
# What a shape admits

A type has values that its shape does not stand for: a text that is too short, an integer out of
bounds, a contribution that some visitor left.  `Shape.admits` tells the others.  What reading gives
is always admitted (`Shape.admits_of_read`), provided that the defaults of absent fields are
(`Shape.defaultsFit`), since those are put in place without being read.
-/

namespace ControlPlane

/-! ## admitted values -/

mutual

/-- Whether a value is one that the shape stands for. -/
def Shape.admits : {α : Type} → Shape α → α → Bool
  | _, .text least, s => decide (least ≤ s.length)
  | _, .integer bounds, i => (bounds.violation? i).isNone
  | _, .boolean, _ => true
  | _, .choice _, _ => true
  | _, .quantity, _ => true
  | _, .port, _ => true
  | _, .contribution proper, c =>
    match c with
    | .proper a => proper.admits a
    | .other _ => false
  | _, .list item, xs => xs.all fun x => item.admits x
  | _, .tuple item, xs => xs.all fun x => item.admits x
  | _, .map item, es => es.all fun e => item.admits e.2
  | _, .record _ fields packing, a => fields.admits (packing.unpack a)

/-- Whether the fields' values are ones that their shapes stand for. -/
def Fields.admits : {ρ : Type} → Fields ρ → ρ → Bool
  | _, .nil, _ => true
  | _, .required _ shape rest, (a, r) => shape.admits a && rest.admits r
  | _, .optional _ shape rest, (o, r) => o.all (fun a => shape.admits a) && rest.admits r
  | _, .defaulted _ shape _ rest, (a, r) => shape.admits a && rest.admits r

end

/-! ## checks of records -/

mutual

/-- Whether every record in the shape passes a check of its style and fields. -/
def Shape.everyRecord (check : (ρ : Type) → RecordStyle → Fields ρ → Bool) :
    {α : Type} → Shape α → Bool
  | _, .text _ => true
  | _, .integer _ => true
  | _, .boolean => true
  | _, .choice _ => true
  | _, .quantity => true
  | _, .port => true
  | _, .contribution proper => proper.everyRecord check
  | _, .list item => item.everyRecord check
  | _, .tuple item => item.everyRecord check
  | _, .map item => item.everyRecord check
  | _, .record style fields _ => check _ style fields && fields.everyRecord check

/-- Whether every record in the shapes of the fields passes a check. -/
def Fields.everyRecord (check : (ρ : Type) → RecordStyle → Fields ρ → Bool) :
    {ρ : Type} → Fields ρ → Bool
  | _, .nil => true
  | _, .required _ shape rest => shape.everyRecord check && rest.everyRecord check
  | _, .optional _ shape rest => shape.everyRecord check && rest.everyRecord check
  | _, .defaulted _ shape _ rest => shape.everyRecord check && rest.everyRecord check

end

/-- Whether the defaults of fields are admitted by their shapes. -/
def Fields.haveFitDefaults : {ρ : Type} → Fields ρ → Bool
  | _, .nil => true
  | _, .required _ _ rest => rest.haveFitDefaults
  | _, .optional _ _ rest => rest.haveFitDefaults
  | _, .defaulted _ shape value rest => shape.admits value && rest.haveFitDefaults

/-- Whether all defaults in the shape are admitted. -/
def Shape.defaultsFit {α : Type} (s : Shape α) : Bool :=
  s.everyRecord fun _ _ fields => fields.haveFitDefaults

/-- Whether all defaults in the shapes of the fields are admitted. -/
def Fields.defaultsFit {ρ : Type} (fs : Fields ρ) : Bool :=
  fs.everyRecord fun _ _ fields => fields.haveFitDefaults

/-! ## reading gives admitted values -/

/-- Items that come from a list are admitted when each reading gives such an item. -/
theorem all_of_forall₂ {β α : Type} {R : β → α → Prop} {p : α → Bool} {bs : List β} {as : List α}
    (h : List.Forall₂ R bs as) (hp : ∀ b a, R b a → p a = true) : as.all p = true := by
  induction h with
  | nil => rfl
  | cons hr _ ih => simp [hp _ _ hr, ih]

mutual

/-- A value that was read is one that the shape stands for. -/
theorem Shape.admits_of_read : {α : Type} → (s : Shape α) → s.defaultsFit = true →
    {v : Value} → {a : α} → s.read v = .ok a → s.admits a = true
  | _, .text least, _, v, s, h => decide_eq_true (length_of_readText h)
  | _, .integer bounds, _, v, i, h => by
      rw [Shape.admits, violation?_of_readInteger h]
      rfl
  | _, .boolean, _, _, _, _ => rfl
  | _, .choice _, _, _, _, _ => rfl
  | _, .quantity, _, _, _, _ => rfl
  | _, .port, _, _, _, _ => rfl
  | _, .contribution proper, hd, v, c, h => by
      obtain ⟨a, ha, rfl⟩ := Reading.map_eq_ok_iff.mp h
      exact proper.admits_of_read hd ha
  | _, .list item, hd, v, xs, h => by
      obtain ⟨vs, -, hvs⟩ := readItems_eq_ok_iff.mp h
      exact all_of_forall₂ hvs fun w x hx => item.admits_of_read hd hx
  | _, .tuple item, hd, v, xs, h => by
      obtain ⟨vs, -, hvs⟩ := readItems_eq_ok_iff.mp h
      exact all_of_forall₂ hvs fun w x hx => item.admits_of_read hd hx
  | _, .map item, hd, v, es, h => by
      obtain ⟨given, -, hes⟩ := readEntries_eq_ok_iff.mp h
      exact all_of_forall₂ hes fun e f hf => item.admits_of_read hd hf.2
  | _, .record style fields packing, hd, v, a, h => by
      cases v with
      | map entries =>
          obtain ⟨hown, hd⟩ := Bool.and_eq_true_iff.mp hd
          obtain ⟨p, hp, rfl⟩ := Reading.map_eq_ok_iff.mp h
          rw [Shape.admits, packing.unpack_pack]
          exact fields.admits_of_read hown hd (Reading.both_eq_ok_iff.mp hp).1
      | _ => cases h

/-- Fields that were read have values that their shapes stand for. -/
theorem Fields.admits_of_read : {ρ : Type} → (fs : Fields ρ) → fs.haveFitDefaults = true →
    fs.defaultsFit = true → {entries : List (Scalar × Value)} → {r : ρ} →
    fs.read entries = .ok r → fs.admits r = true
  | _, .nil, _, _, _, _, _ => rfl
  | _, .required keys shape rest, hown, hd, entries, (a, r), h => by
      obtain ⟨hs, hr⟩ := Bool.and_eq_true_iff.mp hd
      obtain ⟨ha, hrest⟩ := Reading.both_eq_ok_iff.mp h
      rw [Fields.admits, rest.admits_of_read hown hr hrest, Bool.and_true]
      split at ha
      · exact shape.admits_of_read hs (Reading.under_eq_ok_iff.mp ha)
      · cases ha
  | _, .optional keys shape rest, hown, hd, entries, (o, r), h => by
      obtain ⟨hs, hr⟩ := Bool.and_eq_true_iff.mp hd
      obtain ⟨ho, hrest⟩ := Reading.both_eq_ok_iff.mp h
      rw [Fields.admits, rest.admits_of_read hown hr hrest, Bool.and_true]
      split at ho
      · split at ho
        · cases ho
          rfl
        · obtain ⟨a, ha, rfl⟩ := Reading.map_eq_ok_iff.mp (Reading.under_eq_ok_iff.mp ho)
          exact shape.admits_of_read hs ha
      · cases ho
        rfl
  | _, .defaulted keys shape value rest, hown, hd, entries, (a, r), h => by
      obtain ⟨hvalue, hown⟩ := Bool.and_eq_true_iff.mp hown
      obtain ⟨hs, hr⟩ := Bool.and_eq_true_iff.mp hd
      obtain ⟨ha, hrest⟩ := Reading.both_eq_ok_iff.mp h
      rw [Fields.admits, rest.admits_of_read hown hr hrest, Bool.and_true]
      split at ha
      · exact shape.admits_of_read hs (Reading.under_eq_ok_iff.mp ha)
      · cases ha
        exact hvalue

end

end ControlPlane
