import ControlPlane.Proofs.Admission

/-!
# Writing and reading back

What a shape writes for an admitted value is read back as that value (`Shape.read_write`).  The
induction is on the shape.  At a record it goes through the fields while the entries stay those of
the whole record, so its invariant is that these entries answer under the keys of the fields still
to be read as the fields' own entries do (`Answers`).  That needs the keys of a record to be apart:
no field is written under a key by which another one is read (`Shape.keysApart`).
-/

namespace ControlPlane

/-! ## keys apart -/

namespace FieldKeys

/-- The keys that a field is read by. -/
def names (keys : FieldKeys) : List String := [keys.key, keys.alternative]

theorem key_mem_names {keys : FieldKeys} : keys.key ∈ keys.names := by simp [names]

theorem alternative_mem_names {keys : FieldKeys} : keys.alternative ∈ keys.names := by simp [names]

/-- Neither of two fields is written under a key that the other is read by. -/
def Apart (a b : FieldKeys) : Prop := b.key ∉ a.names ∧ a.key ∉ b.names

instance : DecidableRel Apart := fun _ _ => inferInstanceAs (Decidable (_ ∧ _))

end FieldKeys

/-- Whether the fields of every record in the shape have keys apart. -/
def Shape.keysApart {α : Type} (s : Shape α) : Bool :=
  s.everyRecord fun _ _ fields => decide (fields.keys.Pairwise FieldKeys.Apart)

/-- Whether the fields of every record in the shapes of the fields have keys apart. -/
def Fields.keysApart {ρ : Type} (fs : Fields ρ) : Bool :=
  fs.everyRecord fun _ _ fields => decide (fields.keys.Pairwise FieldKeys.Apart)

/-! ## entries under a key -/

namespace Wire

/-- What an object has under a key. -/
def under? (es : List (String × Wire)) (name : String) : Option Wire :=
  Entries.get? (· == ·) name es

variable {es : List (String × Wire)} {name key : String} {w : Wire}

@[simp] theorem under?_cons_self : under? ((key, w) :: es) key = some w := Entries.get?_cons_self

theorem under?_cons_of_ne (h : key ≠ name) : under? ((key, w) :: es) name = under? es name :=
  Entries.get?_cons_of_ne h

/-- A key that no entry has is not found. -/
theorem under?_eq_none (h : ∀ e ∈ es, e.1 ≠ name) : under? es name = none :=
  Entries.get?_eq_none_iff.mpr (by simpa using fun w hmem => h (name, w) hmem rfl)

/-- A key that some entry has is found. -/
theorem under?_of_mem {e : String × Wire} (h : e ∈ es) : ∃ w, under? es e.1 = some w := by
  refine Option.ne_none_iff_exists'.mp fun hnone => ?_
  exact Entries.get?_eq_none_iff.mp hnone (List.mem_map_of_mem h)

/-- An object has the same keys as a configuration value. -/
theorem field?_toEntries : Value.field? name (toEntries es) = (under? es name).map toValue := by
  induction es with
  | nil => rfl
  | cons e es ih =>
      by_cases h : e.1 = name
      · simp [Value.field?, toEntries, under?, Entries.get?, h]
      · rw [under?_cons_of_ne h, ← ih]
        simp [Value.field?, toEntries, Entries.get?, h]

end Wire

namespace FieldKeys

variable {keys : FieldKeys} {es : List (String × Wire)} {w : Wire}

/-- A field that was written is found under its key. -/
theorem find?_of_some (h : Wire.under? es keys.key = some w) :
    keys.find? (Wire.toEntries es) = some (keys.key, w.toValue) := by
  simp [find?, Wire.field?_toEntries, h]

/-- A key that was written is one that its field is found under. -/
theorem isUsed_of_mem {e : String × Wire} (h : e ∈ es) (hkey : keys.key = e.1) :
    keys.isUsed (Wire.toEntries es) e.1 = true := by
  obtain ⟨w, hw⟩ := Wire.under?_of_mem h
  rw [← hkey] at hw ⊢
  simp [isUsed, find?_of_some hw]

/-- A field that was left out is not found. -/
theorem find?_of_none (h : ∀ name ∈ keys.names, Wire.under? es name = none) :
    keys.find? (Wire.toEntries es) = none := by
  simp [find?, Wire.field?_toEntries, h keys.key (by simp [names]),
    h keys.alternative (by simp [names])]

end FieldKeys

/-! ## the entries of a whole record -/

/-- The entries `es` answer under the keys of fields as the fields' own entries do. -/
def Answers (ks : List FieldKeys) (own es : List (String × Wire)) : Prop :=
  ∀ keys ∈ ks, ∀ name ∈ keys.names, Wire.under? es name = Wire.under? own name

namespace Answers

variable {keys : FieldKeys} {ks : List FieldKeys} {own es : List (String × Wire)} {w : Wire}

/-- The first field is answered by its entry if that is the first one. -/
theorem under?_head (h : Answers (keys :: ks) ((keys.key, w) :: own) es) :
    Wire.under? es keys.key = some w := by
  rw [h keys List.mem_cons_self keys.key (by simp [FieldKeys.names])]
  exact Wire.under?_cons_self

/-- The first field is not answered if nothing is written under its keys. -/
theorem under?_head_eq_none (h : Answers (keys :: ks) own es) (hown : ∀ e ∈ own, e.1 ∉ keys.names)
    {name : String} (hname : name ∈ keys.names) : Wire.under? es name = none := by
  rw [h keys List.mem_cons_self name hname]
  exact Wire.under?_eq_none fun e he heq => hown e he (heq ▸ hname)

/-- The other fields are answered without the first one. -/
theorem tail (h : Answers (keys :: ks) own es) : Answers ks own es :=
  fun other hother => h other (List.mem_cons_of_mem _ hother)

/-- The other fields are answered without the entry of the first one, since it is written under its
key, which is none of theirs. -/
theorem tail_of_cons (h : Answers (keys :: ks) ((keys.key, w) :: own) es)
    (hapart : ∀ other ∈ ks, keys.Apart other) : Answers ks own es := by
  intro other hother name hname
  have hne : keys.key ≠ name := fun heq => (hapart other hother).2 (heq ▸ hname)
  rw [h.tail other hother name hname, Wire.under?_cons_of_ne hne]

end Answers

namespace Fields

/-- Fields are written under their keys, in their order. -/
theorem map_fst_write_sublist : {ρ : Type} → (fs : Fields ρ) → (absent : Absent) → (r : ρ) →
    ((fs.write absent r).map Prod.fst).Sublist (fs.keys.map FieldKeys.key)
  | _, .nil, _, _ => .slnil
  | _, .required _ _ rest, absent, (_, r) => (rest.map_fst_write_sublist absent r).cons_cons _
  | _, .optional _ _ rest, absent, (some _, r) => (rest.map_fst_write_sublist absent r).cons_cons _
  | _, .optional _ _ rest, .omitted, (none, r) => (rest.map_fst_write_sublist .omitted r).cons _
  | _, .optional _ _ rest, .kept, (none, r) => (rest.map_fst_write_sublist .kept r).cons_cons _
  | _, .defaulted _ _ _ rest, absent, (_, r) => (rest.map_fst_write_sublist absent r).cons_cons _

/-- What fields write is under the key of one of them. -/
theorem exists_key_of_mem_write {ρ : Type} (fs : Fields ρ) {absent : Absent} {r : ρ}
    {e : String × Wire} (h : e ∈ fs.write absent r) : ∃ keys ∈ fs.keys, keys.key = e.1 := by
  have hmem := (fs.map_fst_write_sublist absent r).subset (List.mem_map_of_mem h)
  exact List.mem_map.mp hmem

/-- No field apart from another is written under a key of that one. -/
theorem key_notMem_names {ρ : Type} (fs : Fields ρ) {absent : Absent} {r : ρ} {keys : FieldKeys}
    (hapart : ∀ other ∈ fs.keys, keys.Apart other) :
    ∀ e ∈ fs.write absent r, e.1 ∉ keys.names := by
  intro e he
  obtain ⟨other, hother, hkey⟩ := fs.exists_key_of_mem_write he
  rw [← hkey]
  exact (hapart other hother).1

/-- No key that fields are written under is unknown to them. -/
theorem readKeys_write {ρ : Type} (fs : Fields ρ) (unknownKeys : UnknownKeys) (absent : Absent)
    (r : ρ) : readKeys unknownKeys fs.keys (Wire.toEntries (fs.write absent r)) = .ok () := by
  cases unknownKeys with
  | ignored => rfl
  | refused =>
      have hnone : (Wire.toEntries (fs.write absent r)).filterMap
          (fun e => keyProblem? fs.keys (Wire.toEntries (fs.write absent r)) e.1) = [] := by
        rw [List.filterMap_eq_nil_iff]
        intro e he
        rw [Wire.toEntries_eq_map] at he
        obtain ⟨f, hf, rfl⟩ := List.mem_map.mp he
        obtain ⟨keys, hkeys, hkey⟩ := fs.exists_key_of_mem_write hf
        have hused : fs.keys.any (·.isUsed (Wire.toEntries (fs.write absent r)) f.1) = true :=
          List.any_eq_true.mpr ⟨keys, hkeys, FieldKeys.isUsed_of_mem hf hkey⟩
        simp only [keyProblem?, hused, if_true]
      simp only [readKeys, hnone]

end Fields

/-! ## reading back -/

/-- Admitted values are not written as the absent one. -/
theorem Shape.isNull_write : {α : Type} → (s : Shape α) → {a : α} → s.admits a = true →
    (s.write a).toValue.isNull = false
  | _, .text _, _, _ => rfl
  | _, .integer _, _, _ => rfl
  | _, .boolean, _, _ => rfl
  | _, .choice _, _, _ => rfl
  | _, .quantity, _, _ => rfl
  | _, .port, .number _, _ => rfl
  | _, .port, .name _, _ => rfl
  | _, .contribution proper, .proper a, h => proper.isNull_write (a := a) h
  | _, .list _, _, _ => rfl
  | _, .tuple _, _, _ => rfl
  | _, .map _, _, _ => rfl
  | _, .record _ _ _, _, _ => rfl

section Items

variable {α : Type} {item : Value → Reading α} {write : α → Wire}

/-- A list is read back if each of its items is. -/
theorem readItems_map_write {otherwise : ProblemKind} {xs : List α}
    (h : ∀ x ∈ xs, item (write x).toValue = .ok x) :
    readItems otherwise item (Wire.list (xs.map write)).toValue = .ok xs := by
  refine readItems_eq_ok_iff.mpr ⟨_, rfl, ?_⟩
  rw [Wire.toValues_eq_map, List.map_map, List.forall₂_map_left_iff, List.forall₂_same]
  exact h

/-- A mapping is read back if each of its values is. -/
theorem readEntries_map_write {es : Entries String α}
    (h : ∀ e ∈ es, item (write e.2).toValue = .ok e.2) :
    readEntries item (Wire.object (es.map fun e => (e.1, write e.2))).toValue = .ok es := by
  refine readEntries_eq_ok_iff.mpr ⟨_, rfl, ?_⟩
  rw [Wire.toEntries_eq_map, List.map_map, List.forall₂_map_left_iff, List.forall₂_same]
  exact fun e he => ⟨readText_text (Nat.zero_le _), h e he⟩

end Items

mutual

/-- What is written for an admitted value is read back. -/
theorem Shape.read_write : {α : Type} → (s : Shape α) → s.keysApart = true → {a : α} →
    s.admits a = true → s.read (s.write a).toValue = .ok a
  | _, .text least, _, s, h => readText_text (of_decide_eq_true h)
  | _, .integer bounds, _, i, h => readInteger_int (Option.isNone_iff_eq_none.mp h)
  | _, .boolean, _, _, _ => rfl
  | _, .choice options, _, a, _ => readChoice_text options a
  | _, .quantity, _, q, _ => readQuantity_text q
  | _, .port, _, p, _ => readPort_toWire p
  | _, .contribution proper, hk, .proper a, h =>
      Reading.map_eq_ok_iff.mpr ⟨a, proper.read_write hk h, rfl⟩
  | _, .list item, hk, _, h =>
      readItems_map_write fun x hx => item.read_write hk (List.all_eq_true.mp h x hx)
  | _, .tuple item, hk, _, h =>
      readItems_map_write fun x hx => item.read_write hk (List.all_eq_true.mp h x hx)
  | _, .map item, hk, _, h =>
      readEntries_map_write fun e he => item.read_write hk (List.all_eq_true.mp h e he)
  | _, .record style fields packing, hk, a, h => by
      obtain ⟨hown, hk⟩ := Bool.and_eq_true_iff.mp hk
      have hread := fields.read_write style.absent hk (of_decide_eq_true hown) h
        (fun _ _ _ _ => rfl)
      refine Reading.map_eq_ok_iff.mpr ⟨(packing.unpack a, ()), ?_, packing.pack_unpack a⟩
      exact Reading.both_eq_ok_iff.mpr ⟨hread, fields.readKeys_write _ _ _⟩

/-- Fields are read back from any entries that answer as their own do. -/
theorem Fields.read_write : {ρ : Type} → (fs : Fields ρ) → (absent : Absent) →
    fs.keysApart = true → fs.keys.Pairwise FieldKeys.Apart → {r : ρ} → fs.admits r = true →
    {es : List (String × Wire)} → Answers fs.keys (fs.write absent r) es →
    fs.read (Wire.toEntries es) = .ok r
  | _, .nil, _, _, _, _, _, _, _ => rfl
  | _, .required keys shape rest, absent, hk, hp, (a, r), h, es, hes => by
      obtain ⟨hs, hr⟩ := Bool.and_eq_true_iff.mp hk
      obtain ⟨hhead, htail⟩ := List.pairwise_cons.mp hp
      obtain ⟨ha, hadmits⟩ := Bool.and_eq_true_iff.mp h
      have hrest := rest.read_write absent hr htail hadmits (Answers.tail_of_cons hes hhead)
      refine Reading.both_eq_ok_iff.mpr ⟨?_, hrest⟩
      rw [FieldKeys.find?_of_some (Answers.under?_head hes)]
      exact Reading.under_eq_ok_iff.mpr (shape.read_write hs ha)
  | _, .optional keys shape rest, absent, hk, hp, (some a, r), h, es, hes => by
      obtain ⟨hs, hr⟩ := Bool.and_eq_true_iff.mp hk
      obtain ⟨hhead, htail⟩ := List.pairwise_cons.mp hp
      obtain ⟨ha, hadmits⟩ := Bool.and_eq_true_iff.mp h
      have hrest := rest.read_write absent hr htail hadmits (Answers.tail_of_cons hes hhead)
      refine Reading.both_eq_ok_iff.mpr ⟨?_, hrest⟩
      rw [FieldKeys.find?_of_some (Answers.under?_head hes)]
      simp only [shape.isNull_write ha, Bool.false_eq_true, if_false, Reading.under_eq_ok_iff]
      exact Reading.map_eq_ok_iff.mpr ⟨a, shape.read_write hs ha, rfl⟩
  | _, .optional keys shape rest, .omitted, hk, hp, (none, r), h, es, hes => by
      obtain ⟨hs, hr⟩ := Bool.and_eq_true_iff.mp hk
      obtain ⟨hhead, htail⟩ := List.pairwise_cons.mp hp
      -- nothing is written for the field, and no other field answers under its keys
      have hes : Answers (keys :: rest.keys) (rest.write .omitted r) es := hes
      refine Reading.both_eq_ok_iff.mpr ⟨?_, rest.read_write .omitted hr htail h hes.tail⟩
      rw [FieldKeys.find?_of_none fun name hname =>
        hes.under?_head_eq_none (rest.key_notMem_names hhead) hname]
  | _, .optional keys shape rest, .kept, hk, hp, (none, r), h, es, hes => by
      -- the null that is written is read as absent
      obtain ⟨hs, hr⟩ := Bool.and_eq_true_iff.mp hk
      obtain ⟨hhead, htail⟩ := List.pairwise_cons.mp hp
      have hrest := rest.read_write .kept hr htail h (Answers.tail_of_cons hes hhead)
      refine Reading.both_eq_ok_iff.mpr ⟨?_, hrest⟩
      rw [FieldKeys.find?_of_some (Answers.under?_head hes)]
      rfl
  | _, .defaulted keys shape value rest, absent, hk, hp, (a, r), h, es, hes => by
      obtain ⟨hs, hr⟩ := Bool.and_eq_true_iff.mp hk
      obtain ⟨hhead, htail⟩ := List.pairwise_cons.mp hp
      obtain ⟨ha, hadmits⟩ := Bool.and_eq_true_iff.mp h
      have hrest := rest.read_write absent hr htail hadmits (Answers.tail_of_cons hes hhead)
      refine Reading.both_eq_ok_iff.mpr ⟨?_, hrest⟩
      rw [FieldKeys.find?_of_some (Answers.under?_head hes)]
      exact Reading.under_eq_ok_iff.mpr (shape.read_write hs ha)

end

end ControlPlane
