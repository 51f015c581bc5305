import ControlPlane.Manifest.Model
import ControlPlane.Proofs.RoundTrip

/-!
# The normal form of objects

Reading a value as a model and writing it again gives a normal form.  This module says what it looks
like and proves it for every model:

* `Shape.Shows`: at every level the object has a key for each field that is not absent, in the order
  of the fields, and what it has under the key shows the field's value; lists and mappings are shown
  item by item, empty ones as empty ones;
* `Shape.Quotes`: every quantity has the text that was given in its place;
* `Model.normal_form`: the normal form of whatever a model accepts is accepted, as the same value,
  and is its own normal form.
-/

namespace ControlPlane

/-! ## what a normal form shows -/

/-- The keys of the fields that are not absent. -/
def Fields.presentKeys : {ρ : Type} → Fields ρ → ρ → List String
  | _, .nil, _ => []
  | _, .required keys _ rest, (_, r) => keys.key :: rest.presentKeys r
  | _, .optional keys _ rest, (o, r) =>
    if o.isSome then keys.key :: rest.presentKeys r else rest.presentKeys r
  | _, .defaulted keys _ _ rest, (_, r) => keys.key :: rest.presentKeys r

mutual

/-- A wire form shows a value level by level. -/
def Shape.Shows : {α : Type} → Shape α → α → Wire → Prop
  | _, .text _, s, w => w = .text s
  | _, .integer _, i, w => w = .int i
  | _, .boolean, b, w => w = .bool b
  | _, .choice options, a, w => w = .text (options.text a)
  | _, .quantity, q, w => w = .text q.text
  | _, .port, p, w => w = p.toWire
  | _, .contribution proper, c, w => ∃ a, c = .proper a ∧ proper.Shows a w
  | _, .list item, xs, w =>
    ∃ ws, w = .list ws ∧ List.Forall₂ (fun x u => item.Shows x u) xs ws
  | _, .tuple item, xs, w =>
    ∃ ws, w = .list ws ∧ List.Forall₂ (fun x u => item.Shows x u) xs ws
  | _, .map item, es, w =>
    ∃ fs, w = .object fs ∧ List.Forall₂ (fun e f => f.1 = e.1 ∧ item.Shows e.2 f.2) es fs
  | _, .record _ fields packing, a, w =>
    ∃ es, w = .object es ∧ es.map Prod.fst = fields.presentKeys (packing.unpack a) ∧
      fields.Shows (packing.unpack a) es

/-- Entries show every field under its key, and absent ones not at all. -/
def Fields.Shows : {ρ : Type} → Fields ρ → ρ → List (String × Wire) → Prop
  | _, .nil, _, _ => True
  | _, .required keys shape rest, (a, r), es =>
    (∃ w, Wire.under? es keys.key = some w ∧ shape.Shows a w) ∧ rest.Shows r es
  | _, .optional keys shape rest, (o, r), es =>
    (match o with
      | some a => ∃ w, Wire.under? es keys.key = some w ∧ shape.Shows a w
      | none => Wire.under? es keys.key = none) ∧ rest.Shows r es
  | _, .defaulted keys shape _ rest, (a, r), es =>
    (∃ w, Wire.under? es keys.key = some w ∧ shape.Shows a w) ∧ rest.Shows r es

end

/-- Whether every record in the shape leaves absent fields out. -/
def Shape.omitsAbsent {α : Type} (s : Shape α) : Bool :=
  s.everyRecord fun _ style _ => decide (style.absent = .omitted)

/-- Whether every record in the shapes of the fields leaves absent fields out. -/
def Fields.omitsAbsent {ρ : Type} (fs : Fields ρ) : Bool :=
  fs.everyRecord fun _ style _ => decide (style.absent = .omitted)

/-- Fields are written under the keys of those that are not absent. -/
theorem Fields.map_fst_write : {ρ : Type} → (fs : Fields ρ) → (r : ρ) →
    (fs.write .omitted r).map Prod.fst = fs.presentKeys r
  | _, .nil, _ => rfl
  | _, .required keys shape rest, (a, r) => by
      rw [Fields.write, Fields.presentKeys, List.map_cons, rest.map_fst_write r]
  | _, .optional keys shape rest, (some a, r) => by
      rw [Fields.write, Fields.presentKeys, List.map_append, rest.map_fst_write r]
      rfl
  | _, .optional keys shape rest, (none, r) => by
      rw [Fields.write, Fields.presentKeys, List.map_append, rest.map_fst_write r]
      rfl
  | _, .defaulted keys shape value rest, (a, r) => by
      rw [Fields.write, Fields.presentKeys, List.map_cons, rest.map_fst_write r]

mutual

/-- What is written for an admitted value shows it. -/
theorem Shape.shows_write : {α : Type} → (s : Shape α) → s.keysApart = true →
    s.omitsAbsent = true → {a : α} → s.admits a = true → s.Shows a (s.write a)
  | _, .text _, _, _, _, _ => rfl
  | _, .integer _, _, _, _, _ => rfl
  | _, .boolean, _, _, _, _ => rfl
  | _, .choice _, _, _, _, _ => rfl
  | _, .quantity, _, _, _, _ => rfl
  | _, .port, _, _, _, _ => rfl
  | _, .contribution proper, hk, ho, .proper a, h => ⟨a, rfl, proper.shows_write hk ho h⟩
  | _, .list item, hk, ho, xs, h => by
      refine ⟨_, rfl, ?_⟩
      rw [List.forall₂_map_right_iff, List.forall₂_same]
      exact fun x hx => item.shows_write hk ho (List.all_eq_true.mp h x hx)
  | _, .tuple item, hk, ho, xs, h => by
      refine ⟨_, rfl, ?_⟩
      rw [List.forall₂_map_right_iff, List.forall₂_same]
      exact fun x hx => item.shows_write hk ho (List.all_eq_true.mp h x hx)
  | _, .map item, hk, ho, es, h => by
      refine ⟨_, rfl, ?_⟩
      rw [List.forall₂_map_right_iff, List.forall₂_same]
      exact fun e he => ⟨rfl, item.shows_write hk ho (List.all_eq_true.mp h e he)⟩
  | _, .record style fields packing, hk, ho, a, h => by
      obtain ⟨hown, hk⟩ := Bool.and_eq_true_iff.mp hk
      obtain ⟨hstyle, ho⟩ := Bool.and_eq_true_iff.mp ho
      refine ⟨fields.write .omitted (packing.unpack a), ?_, fields.map_fst_write _, ?_⟩
      · rw [Shape.write, of_decide_eq_true hstyle]
      · exact fields.shows_of_answers hk ho (of_decide_eq_true hown) h fun _ _ _ _ => rfl

/-- Entries that answer as the fields' own do show the fields. -/
theorem Fields.shows_of_answers : {ρ : Type} → (fs : Fields ρ) → fs.keysApart = true →
    fs.omitsAbsent = true → fs.keys.Pairwise FieldKeys.Apart → {r : ρ} → fs.admits r = true →
    {es : List (String × Wire)} → Answers fs.keys (fs.write .omitted r) es → fs.Shows r es
  | _, .nil, _, _, _, _, _, _, _ => trivial
  | _, .required keys shape rest, hk, ho, hp, (a, r), h, es, hes => by
      obtain ⟨hs, hr⟩ := Bool.and_eq_true_iff.mp hk
      obtain ⟨hos, hor⟩ := Bool.and_eq_true_iff.mp ho
      obtain ⟨hhead, htail⟩ := List.pairwise_cons.mp hp
      obtain ⟨ha, hadmits⟩ := Bool.and_eq_true_iff.mp h
      exact ⟨⟨_, Answers.under?_head hes, shape.shows_write hs hos ha⟩,
        rest.shows_of_answers hr hor htail hadmits (Answers.tail_of_cons hes hhead)⟩
  | _, .optional keys shape rest, hk, ho, hp, (some a, r), h, es, hes => by
      obtain ⟨hs, hr⟩ := Bool.and_eq_true_iff.mp hk
      obtain ⟨hos, hor⟩ := Bool.and_eq_true_iff.mp ho
      obtain ⟨hhead, htail⟩ := List.pairwise_cons.mp hp
      obtain ⟨ha, hadmits⟩ := Bool.and_eq_true_iff.mp h
      exact ⟨⟨_, Answers.under?_head hes, shape.shows_write hs hos ha⟩,
        rest.shows_of_answers hr hor htail hadmits (Answers.tail_of_cons hes hhead)⟩
  | _, .optional keys shape rest, hk, ho, hp, (none, r), h, es, hes => by
      obtain ⟨hs, hr⟩ := Bool.and_eq_true_iff.mp hk
      obtain ⟨hos, hor⟩ := Bool.and_eq_true_iff.mp ho
      obtain ⟨hhead, htail⟩ := List.pairwise_cons.mp hp
      have hes : Answers (keys :: rest.keys) (rest.write .omitted r) es := hes
      exact ⟨hes.under?_head_eq_none (rest.key_notMem_names hhead) (by simp [FieldKeys.names]),
        rest.shows_of_answers hr hor htail h hes.tail⟩
  | _, .defaulted keys shape value rest, hk, ho, hp, (a, r), h, es, hes => by
      obtain ⟨hs, hr⟩ := Bool.and_eq_true_iff.mp hk
      obtain ⟨hos, hor⟩ := Bool.and_eq_true_iff.mp ho
      obtain ⟨hhead, htail⟩ := List.pairwise_cons.mp hp
      obtain ⟨ha, hadmits⟩ := Bool.and_eq_true_iff.mp h
      exact ⟨⟨_, Answers.under?_head hes, shape.shows_write hs hos ha⟩,
        rest.shows_of_answers hr hor htail hadmits (Answers.tail_of_cons hes hhead)⟩

end

/-! ## what a normal form quotes -/

mutual

/-- The quantities of a value are quoted from what it was read from, each from its own place. -/
def Shape.Quotes : {α : Type} → Shape α → Value → α → Prop
  | _, .text _, _, _ => True
  | _, .integer _, _, _ => True
  | _, .boolean, _, _ => True
  | _, .choice _, _, _ => True
  | _, .quantity, v, q => v = .text q.text
  | _, .port, _, _ => True
  | _, .contribution proper, v, c => ∃ a, c = .proper a ∧ proper.Quotes v a
  | _, .list item, v, xs =>
    ∃ vs, v.items? = some vs ∧ List.Forall₂ (fun w x => item.Quotes w x) vs xs
  | _, .tuple item, v, xs =>
    ∃ vs, v.items? = some vs ∧ List.Forall₂ (fun w x => item.Quotes w x) vs xs
  | _, .map item, v, es =>
    ∃ given, v = .map given ∧
      List.Forall₂ (fun e f => readText 0 (.scalar e.1) = .ok f.1 ∧ item.Quotes e.2 f.2) given es
  | _, .record _ fields packing, v, a =>
    ∃ entries, v = .map entries ∧ fields.Quotes entries (packing.unpack a)

/-- The quantities of fields are quoted from what was given under one of the field's keys. -/
def Fields.Quotes : {ρ : Type} → Fields ρ → List (Scalar × Value) → ρ → Prop
  | _, .nil, _, _ => True
  | _, .required keys shape rest, entries, (a, r) =>
    (∃ key v, keys.find? entries = some (key, v) ∧ shape.Quotes v a) ∧ rest.Quotes entries r
  | _, .optional keys shape rest, entries, (o, r) =>
    (∀ a, o = some a → ∃ key v, keys.find? entries = some (key, v) ∧ shape.Quotes v a) ∧
      rest.Quotes entries r
  | _, .defaulted keys shape value rest, entries, (a, r) =>
    ((∃ key v, keys.find? entries = some (key, v) ∧ shape.Quotes v a) ∨
      keys.find? entries = none ∧ a = value) ∧ rest.Quotes entries r

end

mutual

/-- Reading quotes every quantity. -/
theorem Shape.quotes_of_read : {α : Type} → (s : Shape α) → {v : Value} → {a : α} →
    s.read v = .ok a → s.Quotes v a
  | _, .text _, _, _, _ => trivial
  | _, .integer _, _, _, _ => trivial
  | _, .boolean, _, _, _ => trivial
  | _, .choice _, _, _, _ => trivial
  | _, .quantity, _, _, h => eq_text_of_readQuantity h
  | _, .port, _, _, _ => trivial
  | _, .contribution proper, v, c, h => by
      obtain ⟨a, ha, rfl⟩ := Reading.map_eq_ok_iff.mp h
      exact ⟨a, rfl, proper.quotes_of_read ha⟩
  | _, .list item, v, xs, h => by
      obtain ⟨vs, hvs, hxs⟩ := readItems_eq_ok_iff.mp h
      exact ⟨vs, hvs, hxs.imp fun w x hx => item.quotes_of_read hx⟩
  | _, .tuple item, v, xs, h => by
      obtain ⟨vs, hvs, hxs⟩ := readItems_eq_ok_iff.mp h
      exact ⟨vs, hvs, hxs.imp fun w x hx => item.quotes_of_read hx⟩
  | _, .map item, v, es, h => by
      obtain ⟨given, hv, hes⟩ := readEntries_eq_ok_iff.mp h
      exact ⟨given, hv, hes.imp fun e f hf => ⟨hf.1, item.quotes_of_read hf.2⟩⟩
  | _, .record style fields packing, v, a, h => by
      cases v with
      | map entries =>
          obtain ⟨p, hp, rfl⟩ := Reading.map_eq_ok_iff.mp h
          refine ⟨entries, rfl, ?_⟩
          rw [packing.unpack_pack]
          exact fields.quotes_of_read (Reading.both_eq_ok_iff.mp hp).1
      | _ => cases h

/-- Reading quotes every quantity of the fields. -/
theorem Fields.quotes_of_read : {ρ : Type} → (fs : Fields ρ) →
    {entries : List (Scalar × Value)} → {r : ρ} → fs.read entries = .ok r → fs.Quotes entries r
  | _, .nil, _, _, _ => trivial
  | _, .required keys shape rest, entries, (a, r), h => by
      obtain ⟨ha, hrest⟩ := Reading.both_eq_ok_iff.mp h
      refine ⟨?_, rest.quotes_of_read hrest⟩
      split at ha
      · next key v hfind =>
          exact ⟨key, v, hfind, shape.quotes_of_read (Reading.under_eq_ok_iff.mp ha)⟩
      · cases ha
  | _, .optional keys shape rest, entries, (o, r), h => by
      obtain ⟨ho, hrest⟩ := Reading.both_eq_ok_iff.mp h
      refine ⟨?_, rest.quotes_of_read hrest⟩
      rintro a rfl
      split at ho
      · next key v hfind =>
          split at ho
          · cases ho
          · obtain ⟨a', ha, heq⟩ := Reading.map_eq_ok_iff.mp (Reading.under_eq_ok_iff.mp ho)
            cases heq
            exact ⟨key, v, hfind, shape.quotes_of_read ha⟩
      · cases ho
  | _, .defaulted keys shape value rest, entries, (a, r), h => by
      obtain ⟨ha, hrest⟩ := Reading.both_eq_ok_iff.mp h
      refine ⟨?_, rest.quotes_of_read hrest⟩
      split at ha
      · next key v hfind =>
          exact .inl ⟨key, v, hfind, shape.quotes_of_read (Reading.under_eq_ok_iff.mp ha)⟩
      · next hfind =>
          cases ha
          exact .inr ⟨hfind, rfl⟩

end

/-! ## the models -/

namespace Model

/-- Every model keeps the keys of its fields apart, has defaults that it admits itself, and leaves
absent fields out. -/
theorem regular_of_mem : ∀ M ∈ all,
    M.shape.keysApart = true ∧ M.shape.defaultsFit = true ∧ M.shape.omitsAbsent = true := by
  decide +kernel

/-- Whatever a model accepts, its normal form is accepted as the same value, is its own normal form,
shows the value and quotes the quantities that were given. -/
theorem normal_form (M : Model) (hM : M ∈ all) (v : Value) (m : M.Carrier)
    (h : M.shape.read v = .ok m) :
    M.shape.read (M.shape.write m).toValue = .ok m ∧
    M.normalize (M.shape.write m).toValue = .ok (M.shape.write m) ∧
    M.shape.Shows m (M.shape.write m) ∧
    M.shape.Quotes v m := by
  obtain ⟨hkeys, hdefaults, homits⟩ := regular_of_mem M hM
  have hadmits := M.shape.admits_of_read hdefaults h
  have hback := M.shape.read_write hkeys hadmits
  refine ⟨hback, ?_, M.shape.shows_write hkeys homits hadmits, M.shape.quotes_of_read h⟩
  exact Reading.map_eq_ok_iff.mpr ⟨m, hback, rfl⟩

/-- A workload given loosely: keys of both kinds, a null, numbers as texts and as truth values. -/
def looseWorkload : Value :=
  .map
    [(.text "api_version", .text "apps/v1"),
     (.text "spec", .map
       [(.text "service_name", .null),
        (.text "replicas", .text " 3 "),
        (.text "template", .map
          [(.text "spec", .map
            [(.text "containers", .list
              [.map
                [(.text "name", .text "db"),
                 (.text "image", .text "db:1"),
                 (.text "env", .list []),
                 (.text "liveness_probe", .map
                   [(.text "exec", .map [(.text "command", .list [])]),
                    (.text "periodSeconds", .bool true)])]])])]),
        (.text "volumeClaimTemplates", .list
          [.map
            [(.text "spec", .map
              [(.text "resources", .map
                [(.text "requests", .map [(.text "storage", .text "1.50Gi")])])])]])])]

theorem normal_form_looseWorkload :
    ∃ m, Manifest.shape.read looseWorkload = .ok m ∧
      Manifest.shape.read (Manifest.shape.write m).toValue = .ok m ∧
      normalize ⟨"WorkloadManifest", _, Manifest.shape⟩ (Manifest.shape.write m).toValue =
        .ok (Manifest.shape.write m) ∧
      Manifest.shape.Shows m (Manifest.shape.write m) ∧
      Manifest.shape.Quotes looseWorkload m := by
  have hmem : (⟨"WorkloadManifest", _, Manifest.shape⟩ : Model) ∈ all := by
    simp [all]
  cases h : Manifest.shape.read looseWorkload with
  | ok m => exact ⟨m, rfl, normal_form _ hmem looseWorkload m h⟩
  | error r =>
      have hok : (Manifest.shape.read looseWorkload).isOk = true := by decide +kernel
      rw [h] at hok
      cases hok

end Model

end ControlPlane
