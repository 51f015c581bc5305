import ControlPlane.Manifest.Model
import ControlPlane.Proofs.Congruence
import Mathlib.Data.List.Pairwise
import Mathlib.Logic.Relation

/-!
# Spellings of objects

One object can be written down in many ways: a field under either of its keys, other keys added or
left out, and all keys in any order.  `Respells` has a constructor for each of these, `Shape.Within`
carries a change out somewhere inside of a value, wherever the shape reads a record, and a value is
respelled by any number of such changes (`Shape.Respelled`).

A change at one place is followed up to the whole value for any relation of readings that goes
through what readings are put together from (`Reading.Congruence`, `Shape.Within.read`).  The results
are about two such relations, having the same values and being equal (`Model.read_respelled`).
-/

namespace ControlPlane

/-! ## changes of an object -/

/-- Two spellings of an object that is read as a record with these fields. -/
inductive Respells (fields : List FieldKeys) :
    List (Scalar × Value) → List (Scalar × Value) → Prop
  /-- A field is given under another of its keys, which the object does not have yet. -/
  | rename {keys : FieldKeys} {name name' : String} (v : Value)
      (before after : List (Scalar × Value)) (hkeys : keys ∈ fields) (hname : name ∈ keys.names)
      (hname' : name' ∈ keys.names) (honce : .text name ∉ (before ++ after).map Prod.fst)
      (habsent : .text name' ∉ (before ++ after).map Prod.fst) :
      Respells fields (before ++ (.text name, v) :: after) (before ++ (.text name', v) :: after)
  /-- A key that no field has is added. -/
  | add {name : String} (v : Value) (before after : List (Scalar × Value))
      (hunknown : ∀ keys ∈ fields, name ∉ keys.names) :
      Respells fields (before ++ after) (before ++ (.text name, v) :: after)
  /-- A key that no field has is left out. -/
  | remove {name : String} (v : Value) (before after : List (Scalar × Value))
      (hunknown : ∀ keys ∈ fields, name ∉ keys.names) :
      Respells fields (before ++ (.text name, v) :: after) (before ++ after)
  /-- The keys, which are distinct, are given in another order. -/
  | reorder {es es' : List (Scalar × Value)} (hdistinct : (es.map Prod.fst).Nodup)
      (h : es.Perm es') : Respells fields es es'

/-- A field that is given under both of its keys is left out under the alternative one. -/
inductive DropsAlternative (fields : List FieldKeys) :
    List (Scalar × Value) → List (Scalar × Value) → Prop
  | intro {keys : FieldKeys} (v : Value) (before after : List (Scalar × Value))
      (hkeys : keys ∈ fields) (htwo : keys.alternative ≠ keys.key)
      (hboth : .text keys.key ∈ (before ++ after).map Prod.fst) :
      DropsAlternative fields (before ++ (.text keys.alternative, v) :: after) (before ++ after)

/-! ## changes inside of a value -/

/-- A change of entries that is made at one place of a value: in the value itself, if the shape
reads it as a record, or in one of its parts. -/
inductive Shape.Within
    (change : List FieldKeys → List (Scalar × Value) → List (Scalar × Value) → Prop) :
    {α : Type} → Shape α → Value → Value → Prop
  | here {ρ α : Type} {style : RecordStyle} {fields : Fields ρ} {packing : Packing ρ α}
      {es es' : List (Scalar × Value)} (h : change fields.keys es es') :
      Within change (.record style fields packing) (.map es) (.map es')
  | field {ρ α β : Type} {style : RecordStyle} {fields : Fields ρ} {packing : Packing ρ α}
      {keys : FieldKeys} {shape : Shape β} {name : String} {v w : Value}
      (before after : List (Scalar × Value)) (hpart : (keys, ⟨β, shape⟩) ∈ fields.parts)
      (hname : name ∈ keys.names) (h : Within change shape v w) :
      Within change (.record style fields packing) (.map (before ++ (.text name, v) :: after))
        (.map (before ++ (.text name, w) :: after))
  | item {α : Type} {item : Shape α} {v w : Value} (before after : List Value)
      (h : Within change item v w) :
      Within change (.list item) (.list (before ++ v :: after)) (.list (before ++ w :: after))
  | component {α : Type} {item : Shape α} {v w : Value} (before after : List Value)
      (h : Within change item v w) :
      Within change (.tuple item) (.list (before ++ v :: after)) (.list (before ++ w :: after))
  | value {α : Type} {item : Shape α} {key : Scalar} {v w : Value}
      (before after : List (Scalar × Value)) (h : Within change item v w) :
      Within change (.map item) (.map (before ++ (key, v) :: after))
        (.map (before ++ (key, w) :: after))
  | contribution {α : Type} {proper : Shape α} {v w : Value} (h : Within change proper v w) :
      Within change (.contribution proper) v w

/-- Values that come from each other by respelling objects, any number of times and anywhere. -/
def Shape.Respelled {α : Type} (s : Shape α) : Value → Value → Prop :=
  Relation.ReflTransGen (s.Within Respells)

/-! ## keys of different fields -/

/-- Two fields have no key in common.  This is more than `Apart`, which is about written keys. -/
def FieldKeys.Separate (a b : FieldKeys) : Prop := ∀ name ∈ a.names, name ∉ b.names

instance : DecidableRel FieldKeys.Separate := fun a b =>
  inferInstanceAs (Decidable (∀ name ∈ a.names, name ∉ b.names))

theorem FieldKeys.Separate.symm {a b : FieldKeys} (h : a.Separate b) : b.Separate a :=
  fun name hb ha => h name ha hb

/-- Whether every record in the shape ignores unknown keys, and no two of its fields have a key in
common. -/
def Shape.isTolerant {α : Type} (s : Shape α) : Bool :=
  s.everyRecord fun _ style fields =>
    decide (style.unknownKeys = .ignored) && decide (fields.keys.Pairwise FieldKeys.Separate)

/-- A check of every record passes in the parts of a record. -/
theorem Fields.everyRecord_part {check : (ρ : Type) → RecordStyle → Fields ρ → Bool} :
    {ρ : Type} → (fs : Fields ρ) → fs.everyRecord check = true →
    ∀ part ∈ fs.parts, part.2.2.everyRecord check = true
  | _, .nil, _ => by simp [parts]
  | _, .required keys shape rest, h => by
      obtain ⟨hshape, hrest⟩ := Bool.and_eq_true_iff.mp h
      exact List.forall_mem_cons.mpr ⟨hshape, rest.everyRecord_part hrest⟩
  | _, .optional keys shape rest, h => by
      obtain ⟨hshape, hrest⟩ := Bool.and_eq_true_iff.mp h
      exact List.forall_mem_cons.mpr ⟨hshape, rest.everyRecord_part hrest⟩
  | _, .defaulted keys shape value rest, h => by
      obtain ⟨hshape, hrest⟩ := Bool.and_eq_true_iff.mp h
      exact List.forall_mem_cons.mpr ⟨hshape, rest.everyRecord_part hrest⟩

theorem Shape.isTolerant_record {ρ α : Type} {style : RecordStyle} {fields : Fields ρ}
    {packing : Packing ρ α} (h : (Shape.record style fields packing).isTolerant = true) :
    style.unknownKeys = .ignored ∧ fields.keys.Pairwise FieldKeys.Separate ∧
      ∀ part ∈ fields.parts, part.2.2.isTolerant = true := by
  obtain ⟨hown, hparts⟩ := Bool.and_eq_true_iff.mp h
  obtain ⟨hstyle, hseparate⟩ := Bool.and_eq_true_iff.mp hown
  exact ⟨of_decide_eq_true hstyle, of_decide_eq_true hseparate, fields.everyRecord_part hparts⟩

/-- A key belongs to one field. -/
theorem Fields.eq_of_mem_names {ρ : Type} {fs : Fields ρ} (h : fs.keys.Pairwise FieldKeys.Separate)
    {p q : FieldKeys × (α : Type) × Shape α} (hp : p ∈ fs.parts) (hq : q ∈ fs.parts)
    {name : String} (hnp : name ∈ p.1.names) (hnq : name ∈ q.1.names) : p = q := by
  rw [← fs.map_fst_parts, List.pairwise_map] at h
  have hsymm : Std.Symm fun p q : FieldKeys × (α : Type) × Shape α => p.1.Separate q.1 :=
    ⟨fun _ _ hseparate => hseparate.symm⟩
  by_contra hne
  exact h.forall hp hq hne name hnp hnq

/-! ## entries under the keys of a field -/

section Find

variable {name : String} {v w : Value} {before after : List (Scalar × Value)}

/-- An entry does not matter to other keys. -/
theorem field?_insert {other : String} (h : other ≠ name) :
    Value.field? name (before ++ (.text other, v) :: after) =
      Value.field? name (before ++ after) := by
  have hkey : Scalar.text other ≠ .text name := fun heq => h (Scalar.text.inj heq)
  simp only [Value.field?, Entries.get?_append, Entries.get?_cons_of_ne (e := (_, v)) hkey]

/-- An entry is found under its key if there is no other. -/
theorem field?_between (h : .text name ∉ (before ++ after).map Prod.fst) :
    Value.field? name (before ++ (.text name, v) :: after) = some v := by
  have hbefore : Entries.get? (· == ·) (.text name) before = none := by
    rw [Entries.get?_eq_none_iff]
    exact fun hmem => h (by rw [List.map_append]; exact List.mem_append_left _ hmem)
  rw [Value.field?, Entries.get?_append, hbefore, Entries.get?_cons_self, Option.none_or]

/-- The value of an entry matters under its key and only there. -/
theorem field?_replace (other : String) (before after : List (Scalar × Value)) :
    (Value.field? other (before ++ (.text name, v) :: after) =
      Value.field? other (before ++ (.text name, w) :: after)) ∨
    other = name ∧ Value.field? other (before ++ (.text name, v) :: after) = some v ∧
      Value.field? other (before ++ (.text name, w) :: after) = some w := by
  by_cases hother : other = name
  · subst hother
    rw [Value.field?, Value.field?, Entries.get?_append, Entries.get?_append,
      Entries.get?_cons_self, Entries.get?_cons_self]
    cases Entries.get? (· == ·) (.text other) before with
    | none => exact .inr ⟨rfl, rfl, rfl⟩
    | some u => exact .inl rfl
  · rw [field?_insert (Ne.symm hother), field?_insert (Ne.symm hother)]
    exact .inl rfl

namespace FieldKeys

variable {keys : FieldKeys}

/-- A field has no more than two keys. -/
theorem eq_or_eq_of_mem_names (keys : FieldKeys) {a b c : String} (ha : a ∈ keys.names)
    (hb : b ∈ keys.names) (hne : a ≠ b) (hc : c ∈ keys.names) : c = a ∨ c = b := by
  simp only [names, List.mem_cons, List.not_mem_nil, or_false] at ha hb hc
  grind

/-- An entry does not matter to a field if its key is none of the field's. -/
theorem find?_insert (h : name ∉ keys.names) :
    keys.find? (before ++ (.text name, v) :: after) = keys.find? (before ++ after) :=
  find?_congr fun _ hother => field?_insert fun heq => h (heq ▸ hother)

/-- An entry under one of the keys of a field is found if there is nothing else under them. -/
theorem find?_between (hname : name ∈ keys.names)
    (habsent : ∀ other ∈ keys.names, .text other ∉ (before ++ after).map Prod.fst) :
    keys.find? (before ++ (.text name, v) :: after) = some (name, v) := by
  have hfound := field?_between (v := v) (habsent name hname)
  by_cases hkey : name = keys.key
  · subst hkey
    rw [find?, hfound]
  · obtain rfl : name = keys.alternative := by simpa [names, hkey] using hname
    have hnone : Value.field? keys.key (before ++ after) = none :=
      Entries.get?_eq_none_iff.mpr (habsent _ key_mem_names)
    rw [find?, field?_insert hkey, hnone, hfound]
    rfl

/-- An entry under the alternative key does not matter if the other key is there. -/
theorem find?_insert_alternative (htwo : keys.alternative ≠ keys.key)
    (hkey : .text keys.key ∈ (before ++ after).map Prod.fst) :
    keys.find? (before ++ (.text keys.alternative, v) :: after) = keys.find? (before ++ after) := by
  rw [find?, find?, field?_insert htwo]
  cases hfound : Value.field? keys.key (before ++ after) with
  | some _ => rfl
  | none => exact absurd hkey (Entries.get?_eq_none_iff.mp hfound)

/-- The value of an entry matters to a field only if the field is found by that entry. -/
theorem find?_replace (keys : FieldKeys) (before after : List (Scalar × Value)) :
    (keys.find? (before ++ (.text name, v) :: after) =
      keys.find? (before ++ (.text name, w) :: after)) ∨
    name ∈ keys.names ∧ keys.find? (before ++ (.text name, v) :: after) = some (name, v) ∧
      keys.find? (before ++ (.text name, w) :: after) = some (name, w) := by
  rcases field?_replace keys.key before after with hkey | ⟨hname, hv, hw⟩
  · unfold find?
    rw [hkey]
    cases Value.field? keys.key (before ++ (.text name, w) :: after) with
    | some u => exact .inl rfl
    | none =>
        rcases field?_replace keys.alternative before after with halternative | ⟨hname, hv, hw⟩
        · rw [halternative]
          exact .inl rfl
        · rw [hv, hw, ← hname]
          exact .inr ⟨alternative_mem_names, rfl, rfl⟩
  · rw [find?, find?, hv, hw, ← hname]
    exact .inr ⟨key_mem_names, rfl, rfl⟩

end FieldKeys

end Find

/-! ## changes at one place -/

/-- A record that ignores unknown keys is read alike if its fields are. -/
theorem Shape.read_record_congr {R : (α : Type) → Reading α → Reading α → Prop}
    (hR : Reading.Congruence R) {ρ α : Type} {style : RecordStyle} {fields : Fields ρ}
    (packing : Packing ρ α) (hstyle : style.unknownKeys = .ignored) {es es' : List (Scalar × Value)}
    (h : R ρ (fields.read es) (fields.read es')) :
    R α ((Shape.record style fields packing).read (.map es))
      ((Shape.record style fields packing).read (.map es')) := by
  have hread (es : List (Scalar × Value)) : (Shape.record style fields packing).read (.map es) =
      (Reading.both (fields.read es) (.ok ())).map fun p => packing.pack p.1 := by
    rw [Shape.read, hstyle, readKeys]
  rw [hread, hread]
  exact hR.map _ (hR.both h (hR.refl _))

/-- A change at one place of a value is followed up to the whole: what relates the readings of the
fields there relates the readings of the value. -/
theorem Shape.Within.read {R : (α : Type) → Reading α → Reading α → Prop}
    (hR : Reading.Congruence R)
    {change : List FieldKeys → List (Scalar × Value) → List (Scalar × Value) → Prop}
    (hchange : ∀ {ρ : Type} (fs : Fields ρ) {es es' : List (Scalar × Value)},
      fs.keys.Pairwise FieldKeys.Separate → change fs.keys es es' → R ρ (fs.read es) (fs.read es'))
    {α : Type} {s : Shape α} {v w : Value} (h : s.Within change v w) (hs : s.isTolerant = true) :
    R α (s.read v) (s.read w) ∧ v.isNull = w.isNull := by
  induction h with
  | here h =>
      obtain ⟨hstyle, hseparate, -⟩ := Shape.isTolerant_record hs
      exact ⟨Shape.read_record_congr hR _ hstyle (hchange _ hseparate h), rfl⟩
  | @field ρ α β style fields packing keys shape name v w before after hpart hname h ih =>
      obtain ⟨hstyle, hseparate, hparts⟩ := Shape.isTolerant_record hs
      obtain ⟨hread, hnull⟩ := ih (hparts _ hpart)
      refine ⟨Shape.read_record_congr hR _ hstyle (fields.read_congr hR ?_), rfl⟩
      intro part hmem
      rcases part.1.find?_replace before after with heq | ⟨hname', hv, hw⟩
      · exact .of_eq hR heq
      · -- the key belongs to one field, so it is this one that is found by the changed entry
        obtain rfl := Fields.eq_of_mem_names hseparate hpart hmem hname hname'
        rw [hv, hw]
        exact .some hnull (hR.under _ hread)
  | item before after h ih => exact ⟨hR.readItems (ih hs).1 _ _, rfl⟩
  | component before after h ih => exact ⟨hR.readItems (ih hs).1 _ _, rfl⟩
  | value before after h ih => exact ⟨hR.readEntries (ih hs).1 _ _ _, rfl⟩
  | contribution h ih => exact ⟨hR.map _ (ih hs).1, (ih hs).2⟩

/-! ## respelled objects -/

section Changes

variable {ρ : Type} (fs : Fields ρ) {es es' : List (Scalar × Value)}

/-- An entry does not matter if its key belongs to no field. -/
theorem Fields.read_insert_unknown {name : String} (h : ∀ keys ∈ fs.keys, name ∉ keys.names)
    (v : Value) (before after : List (Scalar × Value)) :
    fs.read (before ++ (.text name, v) :: after) = fs.read (before ++ after) :=
  fs.read_of_find?_eq fun part hpart =>
    FieldKeys.find?_insert (h part.1 (fs.map_fst_parts ▸ List.mem_map_of_mem hpart))

variable (hseparate : fs.keys.Pairwise FieldKeys.Separate)

include hseparate

/-- An entry of one field does not matter to another. -/
theorem Fields.find?_insert_other {keys : FieldKeys} (hkeys : keys ∈ fs.keys) {name : String}
    (hname : name ∈ keys.names) (v : Value) (before after : List (Scalar × Value))
    {part : FieldKeys × (α : Type) × Shape α} (hpart : part ∈ fs.parts) (hne : part.1 ≠ keys) :
    part.1.find? (before ++ (.text name, v) :: after) = part.1.find? (before ++ after) := by
  refine FieldKeys.find?_insert fun hname' => hne ?_
  rw [← fs.map_fst_parts] at hkeys
  obtain ⟨part', hpart', rfl⟩ := List.mem_map.mp hkeys
  rw [eq_of_mem_names hseparate hpart hpart' hname' hname]

/-- Both spellings of an object have the same fields. -/
theorem Respells.read (h : Respells fs.keys es es') :
    Reading.SameValue ρ (fs.read es) (fs.read es') := by
  have hcongr := Reading.congruence_sameValue
  cases h with
  | @rename keys name name' v before after hkeys hname hname' honce habsent =>
      refine fs.read_congr hcongr fun part hpart => ?_
      by_cases hown : part.1 = keys
      · by_cases hsame : name = name'
        · exact .of_eq hcongr (by rw [hsame])
        · have hnone : ∀ other ∈ keys.names, .text other ∉ (before ++ after).map Prod.fst := by
            intro other hother
            rcases keys.eq_or_eq_of_mem_names hname hname' hsame hother with rfl | rfl
            · exact honce
            · exact habsent
          rw [hown, FieldKeys.find?_between hname hnone, FieldKeys.find?_between hname' hnone]
          exact .some rfl fun a => by rw [Reading.under_eq_ok_iff, Reading.under_eq_ok_iff]
      · apply Shape.Alike.of_eq hcongr
        rw [fs.find?_insert_other hseparate hkeys hname v before after hpart hown,
          fs.find?_insert_other hseparate hkeys hname' v before after hpart hown]
  | add v before after hunknown =>
      rw [fs.read_insert_unknown hunknown]
      exact hcongr.refl _
  | remove v before after hunknown =>
      rw [fs.read_insert_unknown hunknown]
      exact hcongr.refl _
  | reorder hdistinct h =>
      have heq : fs.read es = fs.read es' :=
        fs.read_of_find?_eq fun _ _ => FieldKeys.find?_congr fun _ _ =>
          Entries.get?_of_perm hdistinct h
      rw [heq]
      exact hcongr.refl _

/-- A field that is given under both of its keys is read under the first. -/
theorem DropsAlternative.read (h : DropsAlternative fs.keys es es') : fs.read es = fs.read es' := by
  obtain @⟨keys, v, before, after, hkeys, htwo, hboth⟩ := h
  refine fs.read_of_find?_eq fun part hpart => ?_
  by_cases hown : part.1 = keys
  · rw [hown, FieldKeys.find?_insert_alternative htwo hboth]
  · exact fs.find?_insert_other hseparate hkeys FieldKeys.alternative_mem_names v before after hpart
      hown

end Changes

/-! ## respelled values -/

namespace Model

/-- No model minds unknown keys, and no two fields of an object have a key in common. -/
theorem tolerant_of_mem : ∀ M ∈ all, M.shape.isTolerant = true := by decide +kernel

/-- A respelled value is read as the same model, if any, and written down again alike.  A field that
is given under both of its keys is read as if the alternative one were left out. -/
theorem read_respelled (M : Model) (hM : M ∈ all) (v w : Value) :
    (M.shape.Respelled v w →
      (∀ m, M.shape.read v = .ok m ↔ M.shape.read w = .ok m) ∧
      ∀ d, M.normalize v = .ok d ↔ M.normalize w = .ok d) ∧
    (M.shape.Within DropsAlternative v w →
      M.shape.read v = M.shape.read w ∧ M.normalize v = M.normalize w) := by
  have htolerant := tolerant_of_mem M hM
  constructor
  · intro h
    have hread : Reading.SameValue M.Carrier (M.shape.read v) (M.shape.read w) := by
      induction h with
      | refl => exact Reading.congruence_sameValue.refl _
      | tail _ hlast ih =>
          have hstep := hlast.read Reading.congruence_sameValue Respells.read htolerant
          exact fun m => (ih m).trans (hstep.1 m)
    exact ⟨hread, Reading.congruence_sameValue.map M.shape.write hread⟩
  · intro h
    have hread := (h.read Reading.congruence_eq DropsAlternative.read htolerant).1
    exact ⟨hread, congrArg (·.map M.shape.write) hread⟩

/-- The source of a variable under its first keys. -/
def plainSource : Value :=
  .map [(.text "fieldRef", .map [(.text "fieldPath", .text "spec.nodeName")])]

/-- The same source, with one key renamed and another one added. -/
def looseSource : Value :=
  .map [(.text "optional", .null),
    (.text "fieldRef", .map [(.text "field_path", .text "spec.nodeName")])]

/-- The same source, with a field under both of its keys. -/
def doubledSource : Value :=
  .map [(.text "fieldRef",
    .map [(.text "field_path", .list []), (.text "fieldPath", .text "spec.nodeName")])]

theorem read_respelled_sources :
    (EnvVarSource.shape.Respelled plainSource looseSource ∧
      ∀ d, normalize ⟨"EnvVarSource", _, EnvVarSource.shape⟩ plainSource = .ok d ↔
        normalize ⟨"EnvVarSource", _, EnvVarSource.shape⟩ looseSource = .ok d) ∧
    EnvVarSource.shape.Within DropsAlternative doubledSource plainSource ∧
      normalize ⟨"EnvVarSource", _, EnvVarSource.shape⟩ doubledSource =
        normalize ⟨"EnvVarSource", _, EnvVarSource.shape⟩ plainSource := by
  have hmem : (⟨"EnvVarSource", _, EnvVarSource.shape⟩ : Model) ∈ all := by simp [all]
  have hrenamed : EnvVarSource.shape.Within Respells plainSource
      (.map [(.text "fieldRef", .map [(.text "field_path", .text "spec.nodeName")])]) :=
    .field [] [] List.mem_cons_self (by decide)
      (.here (.rename _ [] [] List.mem_cons_self (by decide) (by decide) (by decide) (by decide)))
  have hadded : EnvVarSource.shape.Within Respells
      (.map [(.text "fieldRef", .map [(.text "field_path", .text "spec.nodeName")])])
      looseSource :=
    .here (.add .null [] _ (by decide))
  have hdoubled : EnvVarSource.shape.Within DropsAlternative doubledSource plainSource :=
    .field [] [] List.mem_cons_self (by decide)
      (.here (.intro (.list []) [] _ List.mem_cons_self (by decide) (by decide)))
  have hrespelled : EnvVarSource.shape.Respelled plainSource looseSource :=
    .tail (.single hrenamed) hadded
  exact ⟨⟨hrespelled, ((read_respelled _ hmem _ _).1 hrespelled).2⟩,
    hdoubled, ((read_respelled _ hmem _ _).2 hdoubled).2⟩

end Model

end ControlPlane
