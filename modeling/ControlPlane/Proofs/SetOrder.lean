import ControlPlane.Proofs.Build
import ControlPlane.Proofs.Escapes
import ControlPlane.Proofs.Obtained
import Mathlib.Data.List.Perm.Basic

/-!
# What the order of sets decides

Two processes that go through sets in different orders read the same from what is written, but for
the order of the items where a list is read from a set (`Shape.readsAlike`).  Nothing else depends
on it: keys and nulls are where they are written, and a leaf is read from a scalar or not at all.

So both processes find settings, the same but for the order of the peer addresses, or neither does
(`Config.ofWritten_apart`), and a manifest is built from both settings or fails for the same reason
(`Settings.SamePeers.build`).
-/

namespace ControlPlane

/-! ## values in an order -/

namespace SetOrder

variable (order : SetOrder)

theorem values_eq_map (vs : List Value) : order.values vs = vs.map order.value := by
  induction vs with
  | nil => rfl
  | cons v vs ih => rw [values, ih, List.map_cons]

theorem entries_eq_map (es : List (Scalar × Value)) :
    order.entries es = es.map fun e => (e.1, order.value e.2) := by
  induction es with
  | nil => rfl
  | cons e es ih => rw [entries, ih, List.map_cons]

@[simp] theorem isNull_value (v : Value) : (order.value v).isNull = v.isNull := by
  cases v <;> rfl

theorem eq_scalar_of_value {v : Value} {s : Scalar} (h : order.value v = .scalar s) :
    v = .scalar s := by
  cases v <;> simp_all [value]

theorem field?_entries (name : String) (es : List (Scalar × Value)) :
    Value.field? name (order.entries es) = (Value.field? name es).map order.value := by
  unfold Value.field?
  induction es with
  | nil => rfl
  | cons e es ih =>
      obtain ⟨k, v⟩ := e
      by_cases hk : (k == .text name) = true <;> simp [entries, Entries.get?, hk, ih]

/-- A field is found under the same key. -/
theorem find?_entries (keys : FieldKeys) (es : List (Scalar × Value)) :
    keys.find? (order.entries es) = (keys.find? es).map fun f => (f.1, order.value f.2) := by
  simp only [FieldKeys.find?, field?_entries]
  cases Value.field? keys.key es with
  | some v => rfl
  | none => cases Value.field? keys.alternative es <;> rfl

/-- So the same keys have problems. -/
theorem readKeys_entries (unknownKeys : UnknownKeys) (fields : List FieldKeys)
    (es : List (Scalar × Value)) :
    readKeys unknownKeys fields (order.entries es) = readKeys unknownKeys fields es := by
  have hused (keys : FieldKeys) : keys.isUsed (order.entries es) = keys.isUsed es := by
    funext name
    rw [FieldKeys.isUsed, FieldKeys.isUsed, find?_entries]
    cases keys.find? es <;> rfl
  have hproblem : keyProblem? fields (order.entries es) = keyProblem? fields es := by
    funext k
    cases k with
    | text name => simp only [keyProblem?, hused]
    | _ => rfl
  cases unknownKeys with
  | ignored => rfl
  | refused =>
      simp only [readKeys, hproblem]
      rw [entries_eq_map, List.filterMap_map]
      rfl

theorem entries_put (k : Scalar) (v : Value) (es : List (Scalar × Value)) :
    order.entries (Entries.put Scalar.sameKey k v es)
      = Entries.put Scalar.sameKey k (order.value v) (order.entries es) := by
  induction es with
  | nil => rfl
  | cons e es ih =>
      obtain ⟨j, w⟩ := e
      by_cases hj : j.sameKey k = true <;> simp [entries, Entries.put, hj, ih]

theorem entries_putAll (new es : List (Scalar × Value)) :
    order.entries (Entries.putAll Scalar.sameKey new es)
      = Entries.putAll Scalar.sameKey (order.entries new) (order.entries es) := by
  induction new generalizing es with
  | nil => rfl
  | cons e new ih => rw [Entries.putAll_cons, ih, entries_put, entries, Entries.putAll_cons]

/-- Overrides are laid over the same places. -/
theorem entries_override (overrides es : List (Scalar × Value)) :
    order.entries (Config.override overrides es)
      = Config.override (order.entries overrides) (order.entries es) := by
  have hfilter : order.entries (overrides.filter fun e => !e.2.isNull)
      = (order.entries overrides).filter fun e => !e.2.isNull := by
    simp only [entries_eq_map, List.filter_map, Function.comp_def, isNull_value]
  rw [Config.override, entries_putAll, hfilter, Config.override]

end SetOrder

/-! ## values that are read alike -/

mutual

/-- Two values that differ in the order of the items of their lists, if at all. -/
def Shape.Rearranges : {α : Type} → Shape α → α → α → Prop
  | _, .text _, a, b => a = b
  | _, .integer _, a, b => a = b
  | _, .boolean, a, b => a = b
  | _, .choice _, a, b => a = b
  | _, .quantity, a, b => a = b
  | _, .port, a, b => a = b
  | _, .contribution proper, c, d =>
    match c, d with
    | .proper a, .proper b => proper.Rearranges a b
    | .other v, .other w => v = w
    | _, _ => False
  | _, .list item, as, bs => ∃ cs, List.Forall₂ (fun a c => item.Rearranges a c) as cs ∧ cs.Perm bs
  | _, .tuple item, as, bs => ∃ cs, List.Forall₂ (fun a c => item.Rearranges a c) as cs ∧ cs.Perm bs
  | _, .map item, es, fs =>
    List.Forall₂ (fun e f => e.1 = f.1 ∧ item.Rearranges e.2 f.2) es fs
  | _, .record _ fields packing, a, b => fields.Rearranges (packing.unpack a) (packing.unpack b)

/-- Fields whose values differ in the order of the items of their lists, if at all. -/
def Fields.Rearranges : {ρ : Type} → Fields ρ → ρ → ρ → Prop
  | _, .nil, _, _ => True
  | _, .required _ shape rest, (a, r), (b, q) => shape.Rearranges a b ∧ rest.Rearranges r q
  | _, .optional _ shape rest, (o, r), (p, q) =>
    Option.Rel (fun a b => shape.Rearranges a b) o p ∧ rest.Rearranges r q
  | _, .defaulted _ shape _ rest, (a, r), (b, q) => shape.Rearranges a b ∧ rest.Rearranges r q

end

mutual

theorem Shape.rearranges_refl : {α : Type} → (s : Shape α) → (a : α) → s.Rearranges a a
  | _, .text _, _ => rfl
  | _, .integer _, _ => rfl
  | _, .boolean, _ => rfl
  | _, .choice _, _ => rfl
  | _, .quantity, _ => rfl
  | _, .port, _ => rfl
  | _, .contribution proper, .proper a => proper.rearranges_refl a
  | _, .contribution _, .other _ => rfl
  | _, .list item, as =>
      ⟨as, List.forall₂_same.mpr fun a _ => item.rearranges_refl a, .refl as⟩
  | _, .tuple item, as =>
      ⟨as, List.forall₂_same.mpr fun a _ => item.rearranges_refl a, .refl as⟩
  | _, .map item, _ => List.forall₂_same.mpr fun e _ => ⟨rfl, item.rearranges_refl e.2⟩
  | _, .record _ fields packing, a => fields.rearranges_refl (packing.unpack a)

theorem Fields.rearranges_refl : {ρ : Type} → (fs : Fields ρ) → (r : ρ) → fs.Rearranges r r
  | _, .nil, _ => trivial
  | _, .required _ shape rest, (a, r) => ⟨shape.rearranges_refl a, rest.rearranges_refl r⟩
  | _, .optional _ _ rest, (none, r) => ⟨.none, rest.rearranges_refl r⟩
  | _, .optional _ shape rest, (some a, r) =>
      ⟨.some (shape.rearranges_refl a), rest.rearranges_refl r⟩
  | _, .defaulted _ shape _ rest, (a, r) => ⟨shape.rearranges_refl a, rest.rearranges_refl r⟩

end

/-! ## readings in two orders -/

/-- A reading that takes scalars and nothing else. -/
def TakesScalars {α : Type} (read : Value → Reading α) : Prop :=
  ∀ v a, read v = .ok a → ∃ s, v = .scalar s

theorem takesScalars_readText (least : Nat) : TakesScalars (readText least) := by
  intro v a h
  cases v with
  | scalar s => exact ⟨s, rfl⟩
  | _ => cases h

theorem takesScalars_readInteger (bounds : Bounds) : TakesScalars (readInteger bounds) := by
  intro v a h
  cases v with
  | scalar s => exact ⟨s, rfl⟩
  | _ => cases h

theorem takesScalars_readBool : TakesScalars readBool := by
  intro v a h
  cases v with
  | scalar s => exact ⟨s, rfl⟩
  | _ => cases h

theorem takesScalars_readChoice {α : Type} (options : Choice α) :
    TakesScalars (readChoice options) := by
  intro v a h
  cases v with
  | scalar s => exact ⟨s, rfl⟩
  | _ => cases h

theorem takesScalars_readQuantity : TakesScalars readQuantity := by
  intro v q h
  exact ⟨_, eq_text_of_readQuantity h⟩

theorem takesScalars_readPort : TakesScalars readPort := by
  intro v p h
  cases v with
  | scalar s => exact ⟨s, rfl⟩
  | _ => cases h

/-- What is read in one order is read in the other one too, as something related. -/
def ReadsAlike {α : Type} (order order' : SetOrder) (R : α → α → Prop) (read : Value → Reading α) :
    Prop :=
  ∀ v a, read (order.value v) = .ok a → ∃ b, read (order'.value v) = .ok b ∧ R a b

section ReadsAlike

variable {order order' : SetOrder} {α : Type} {read : Value → Reading α} {R : α → α → Prop}

/-- What is read from scalars is the same in any order. -/
theorem TakesScalars.readsAlike (h : TakesScalars read) : ReadsAlike order order' Eq read := by
  intro v a ha
  obtain ⟨s, hs⟩ := h _ _ ha
  obtain rfl := order.eq_scalar_of_value hs
  exact ⟨a, ha, rfl⟩

/-- Results one by one, given one for each part and another one related to it. -/
theorem exists_forall₂ {ι : Type} {P Q : ι → α → Prop} {is : List ι} {as : List α}
    (h : List.Forall₂ P is as) (hstep : ∀ i a, P i a → ∃ b, Q i b ∧ R a b) :
    ∃ bs, List.Forall₂ Q is bs ∧ List.Forall₂ R as bs := by
  induction h with
  | nil => exact ⟨[], .nil, .nil⟩
  | cons hi _ ih =>
      obtain ⟨b, hq, hr⟩ := hstep _ _ hi
      obtain ⟨bs, hqs, hrs⟩ := ih
      exact ⟨b :: bs, .cons hq hqs, .cons hr hrs⟩

namespace ReadsAlike

variable (h : ReadsAlike order order' R read)

include h

theorem values (items : List Value) {as : List α}
    (hread : List.Forall₂ (fun w a => read w = .ok a) (order.values items) as) :
    ∃ bs, List.Forall₂ (fun w b => read w = .ok b) (order'.values items) bs ∧
      List.Forall₂ R as bs := by
  rw [SetOrder.values_eq_map, List.forall₂_map_left_iff] at hread
  obtain ⟨bs, hbs, hsame⟩ := exists_forall₂ hread h
  rw [SetOrder.values_eq_map]
  exact ⟨bs, List.forall₂_map_left_iff.mpr hbs, hsame⟩

/-- Items are read alike, and only those of a set may be in other places. -/
theorem items (hrefl : ∀ a, R a a) (otherwise : ProblemKind) :
    ReadsAlike order order' (fun as bs => ∃ cs, List.Forall₂ R as cs ∧ cs.Perm bs)
      (readItems otherwise read) := by
  intro v as has
  obtain ⟨vs, hvs, hread⟩ := readItems_eq_ok_iff.mp has
  simp only [readItems_eq_ok_iff]
  cases v with
  | scalar s => cases hvs
  | map entries => cases hvs
  | list items =>
      obtain rfl := Option.some.inj hvs
      obtain ⟨bs, hbs, hsame⟩ := h.values items hread
      exact ⟨bs, ⟨_, rfl, hbs⟩, bs, hsame, .refl bs⟩
  | pair v w =>
      obtain rfl := Option.some.inj hvs
      obtain ⟨bs, hbs, hsame⟩ := h.values [v, w] hread
      exact ⟨bs, ⟨_, rfl, hbs⟩, bs, hsame, .refl bs⟩
  | set members =>
      have hperm : ((order'.arrange members).map Value.scalar).Perm vs := by
        rw [← Option.some.inj hvs]
        exact ((order'.perm members).trans (order.perm members).symm).map _
      obtain ⟨bs, hbs, hsame⟩ := List.perm_comp_forall₂ hperm hread
      exact ⟨bs, ⟨_, rfl, hbs⟩, as, List.forall₂_same.mpr fun a _ => hrefl a, hsame.symm⟩

/-- Entries are read alike where they are. -/
theorem entries :
    ReadsAlike order order' (List.Forall₂ fun e f => e.1 = f.1 ∧ R e.2 f.2) (readEntries read) := by
  intro v es hes
  obtain ⟨given, hgiven, hread⟩ := readEntries_eq_ok_iff.mp hes
  simp only [readEntries_eq_ok_iff]
  cases v with
  | map entries =>
      obtain rfl := Value.map.inj hgiven
      rw [SetOrder.entries_eq_map, List.forall₂_map_left_iff] at hread
      obtain ⟨fs, hfs, hsame⟩ := exists_forall₂
        (Q := fun e f => readText 0 (.scalar e.1) = .ok f.1 ∧ read (order'.value e.2) = .ok f.2)
        (R := fun e f => e.1 = f.1 ∧ R e.2 f.2) hread fun e f hf => by
          obtain ⟨b, hb, hr⟩ := h _ _ hf.2
          exact ⟨(f.1, b), ⟨hf.1, hb⟩, rfl, hr⟩
      refine ⟨fs, ⟨_, rfl, ?_⟩, hsame⟩
      rw [SetOrder.entries_eq_map]
      exact List.forall₂_map_left_iff.mpr hfs
  | _ => cases hgiven

variable {keys : FieldKeys} {es : List (Scalar × Value)}

/-- A field is read alike, whatever stands for its absence. -/
theorem field (hrefl : ∀ a, R a a) {absent : Reading α} {a : α}
    (ha : (match keys.find? (order.entries es) with
      | some (key, v) => Reading.under (.key key) (read v)
      | none => absent) = .ok a) :
    ∃ b, (match keys.find? (order'.entries es) with
      | some (key, v) => Reading.under (.key key) (read v)
      | none => absent) = .ok b ∧ R a b := by
  simp only [SetOrder.find?_entries] at ha ⊢
  cases hfound : keys.find? es with
  | none => exact ⟨a, by simpa [hfound] using ha, hrefl a⟩
  | some found =>
      simp only [hfound, Option.map_some, Reading.under_eq_ok_iff] at ha ⊢
      exact h _ _ ha

/-- So is one that may be null. -/
theorem optionalField {o : Option α}
    (ho : (match keys.find? (order.entries es) with
      | some (key, v) =>
        if v.isNull then Except.ok none else Reading.under (.key key) ((read v).map some)
      | none => Except.ok none) = .ok o) :
    ∃ p, (match keys.find? (order'.entries es) with
      | some (key, v) =>
        if v.isNull then Except.ok none else Reading.under (.key key) ((read v).map some)
      | none => Except.ok none) = .ok p ∧ Option.Rel R o p := by
  simp only [SetOrder.find?_entries] at ho ⊢
  cases hfound : keys.find? es with
  | none =>
      simp only [hfound, Option.map_none, Except.ok.injEq] at ho ⊢
      exact ⟨none, rfl, ho ▸ .none⟩
  | some found =>
      simp only [hfound, Option.map_some, SetOrder.isNull_value] at ho ⊢
      split at ho
      · next hnull =>
          obtain rfl := Except.ok.inj ho
          exact ⟨none, if_pos hnull, .none⟩
      · next hnull =>
          obtain ⟨a, ha, rfl⟩ := Reading.map_eq_ok_iff.mp (Reading.under_eq_ok_iff.mp ho)
          obtain ⟨b, hb, hsame⟩ := h _ _ ha
          refine ⟨some b, ?_, .some hsame⟩
          rw [if_neg hnull, Reading.under_eq_ok_iff, Reading.map_eq_ok_iff]
          exact ⟨b, hb, rfl⟩

end ReadsAlike

end ReadsAlike

section Orders

variable (order order' : SetOrder)

mutual

/-- What is read in one order is read in the other one too, at most with the items of lists in other
places. -/
theorem Shape.readsAlike : {α : Type} → (s : Shape α) →
    ReadsAlike order order' (fun a b => s.Rearranges a b) (fun v => s.read v)
  | _, .text least => (takesScalars_readText least).readsAlike
  | _, .integer bounds => (takesScalars_readInteger bounds).readsAlike
  | _, .boolean => takesScalars_readBool.readsAlike
  | _, .choice options => (takesScalars_readChoice options).readsAlike
  | _, .quantity => takesScalars_readQuantity.readsAlike
  | _, .port => takesScalars_readPort.readsAlike
  | _, .contribution proper => by
      intro v c hc
      obtain ⟨a, ha, rfl⟩ := Reading.map_eq_ok_iff.mp hc
      obtain ⟨b, hb, hsame⟩ := proper.readsAlike _ _ ha
      exact ⟨.proper b, Reading.map_eq_ok_iff.mpr ⟨b, hb, rfl⟩, hsame⟩
  | _, .list item => item.readsAlike.items item.rearranges_refl _
  | _, .tuple item => item.readsAlike.items item.rearranges_refl _
  | _, .map item => item.readsAlike.entries
  | _, .record style fields packing => by
      intro v a ha
      cases v with
      | map entries =>
          obtain ⟨p, hp, rfl⟩ := Reading.map_eq_ok_iff.mp ha
          obtain ⟨hfields, hkeys⟩ := Reading.both_eq_ok_iff.mp hp
          obtain ⟨r, hr, hsame⟩ := fields.exists_read hfields
          rw [SetOrder.readKeys_entries, ← order'.readKeys_entries] at hkeys
          refine ⟨packing.pack r, Reading.map_eq_ok_iff.mpr
            ⟨(r, p.2), Reading.both_eq_ok_iff.mpr ⟨hr, hkeys⟩, rfl⟩, ?_⟩
          dsimp only
          rw [Shape.Rearranges, packing.unpack_pack, packing.unpack_pack]
          exact hsame
      | _ => cases ha

/-- So are the fields of a record. -/
theorem Fields.exists_read : {ρ : Type} → (fs : Fields ρ) →
    {es : List (Scalar × Value)} → {r : ρ} → fs.read (order.entries es) = .ok r →
    ∃ q, fs.read (order'.entries es) = .ok q ∧ fs.Rearranges r q
  | _, .nil, _, _, _ => ⟨(), rfl, trivial⟩
  | _, .required keys shape rest, _, _, h => by
      obtain ⟨hfield, hrest⟩ := Reading.both_eq_ok_iff.mp h
      obtain ⟨b, hb, hsame⟩ := shape.readsAlike.field shape.rearranges_refl hfield
      obtain ⟨q, hq, hsames⟩ := rest.exists_read hrest
      exact ⟨(b, q), Reading.both_eq_ok_iff.mpr ⟨hb, hq⟩, hsame, hsames⟩
  | _, .optional keys shape rest, _, (_, _), h => by
      obtain ⟨hfield, hrest⟩ := Reading.both_eq_ok_iff.mp h
      obtain ⟨p, hp, hsame⟩ := shape.readsAlike.optionalField hfield
      obtain ⟨q, hq, hsames⟩ := rest.exists_read hrest
      exact ⟨(p, q), Reading.both_eq_ok_iff.mpr ⟨hp, hq⟩, hsame, hsames⟩
  | _, .defaulted keys shape value rest, _, _, h => by
      obtain ⟨hfield, hrest⟩ := Reading.both_eq_ok_iff.mp h
      obtain ⟨b, hb, hsame⟩ := shape.readsAlike.field shape.rearranges_refl hfield
      obtain ⟨q, hq, hsames⟩ := rest.exists_read hrest
      exact ⟨(b, q), Reading.both_eq_ok_iff.mpr ⟨hb, hq⟩, hsame, hsames⟩

end

end Orders

/-! ## settings -/

namespace Settings

/-- Settings with the same peer addresses, in whatever order, that do not differ otherwise. -/
structure SamePeers (s t : Settings) : Prop where
  others : t = { s with peerAddresses := t.peerAddresses }
  peers : Option.Rel List.Perm s.peerAddresses t.peerAddresses

/-- There is no other list in settings. -/
theorem samePeers_of_rearranges {s t : Settings} (h : shape.Rearranges s t) : s.SamePeers t := by
  simp only [shape, Shape.Rearranges, Fields.Rearranges, ResourcePolicy.shape, PullPolicy.shape,
    List.forall₂_eq_eq_eq, and_true, exists_eq_left'] at h
  obtain ⟨_, _, _, _, _, _, _, _, _, _, _, p⟩ := s
  obtain ⟨_, _, _, _, _, _, _, _, _, _, _, q⟩ := t
  obtain ⟨rfl, rfl, rfl, rfl, rfl, rfl, rfl, hpeers, rfl, rfl, rfl, hresources⟩ := h
  obtain rfl : p = q := by
    cases p
    cases q
    simpa using hresources
  exact ⟨rfl, hpeers⟩

namespace SamePeers

variable {s t : Settings} (h : s.SamePeers t)

include h

theorem peerProblem? (hs : s.peerProblem? = none) : t.peerProblem? = none := by
  rw [peerProblem?_eq_none_iff] at hs ⊢
  intro bs hbs
  have hreplicas : t.replicas = s.replicas := by rw [h.others]
  have hpeers := h.peers
  cases has : s.peerAddresses with
  | none =>
      rw [has, hbs] at hpeers
      cases hpeers
  | some as =>
      rw [has, hbs, Option.rel_some_some] at hpeers
      obtain ⟨hcount, hblank⟩ := hs as has
      rw [← hpeers.length_eq, hreplicas]
      exact ⟨hcount, fun b hb => hblank b (hpeers.mem_iff.mpr hb)⟩

/-- A manifest is built from both settings, or fails for the same reason. -/
theorem build :
    (∃ e, s.buildManifest = .error e ∧ t.buildManifest = .error e) ∨
    ∃ m n, s.buildManifest = .ok m ∧ t.buildManifest = .ok n := by
  have hresources : t.serverResources = s.serverResources := by rw [h.others]; rfl
  have hcapacity : t.capacity = s.capacity := by rw [h.others]
  simp only [buildManifest_eq, hresources, hcapacity]
  cases s.serverResources with
  | error e => exact .inl ⟨_, rfl, rfl⟩
  | ok r =>
      dsimp only
      cases Failure.parseQuantity s.capacity with
      | error e => exact .inl ⟨_, rfl, rfl⟩
      | ok capacity => exact .inr ⟨_, _, rfl, rfl⟩

end SamePeers

/-- Settings that are read in one order are read in the other one, but for the order of peers. -/
theorem readsAlike (order order' : SetOrder) : ReadsAlike order order' SamePeers read := by
  intro v s hs
  obtain ⟨hread, hproblem⟩ := read_eq_ok_iff.mp hs
  obtain ⟨t, ht, hsame⟩ := shape.readsAlike order order' _ _ hread
  have hpeers := samePeers_of_rearranges hsame
  exact ⟨t, read_eq_ok_iff.mpr ⟨ht, hpeers.peerProblem? hproblem⟩, hpeers⟩

end Settings

/-! ## configurations -/

namespace Config

/-- What is found in one configuration by processes with different orders of sets. -/
inductive Apart : Except ConfigFailure Settings → Except ConfigFailure Settings → Prop
  | failed (e : ConfigFailure) : Apart (.error e) (.error e)
  | invalid (ps qs : List Problem) : Apart (.error (.invalid ps)) (.error (.invalid qs))
  | found {s t : Settings} (h : s.SamePeers t) : Apart (.ok s) (.ok t)

variable (order order' : SetOrder) {overrides : List (Scalar × Value)}

theorem ofEntries_apart (es : List (Scalar × Value))
    (hone : Value.entriesHaveOneOrder overrides = true) :
    Apart (ofEntries (order.entries es) overrides) (ofEntries (order'.entries es) overrides) := by
  have hvalue (order : SetOrder) :
      Value.map (override overrides (order.entries es))
        = order.value (.map (override overrides es)) := by
    rw [SetOrder.value, SetOrder.entries_override, order.entries_of_haveOneOrder hone]
  rw [ofEntries, ofEntries, hvalue order, hvalue order']
  cases hread : Settings.read (order.value (.map (override overrides es))) with
  | ok s =>
      obtain ⟨t, ht, hsame⟩ := Settings.readsAlike order order' _ _ hread
      rw [ht]
      exact .found hsame
  | error r =>
      cases hread' : Settings.read (order'.value (.map (override overrides es))) with
      | ok t =>
          obtain ⟨s, hs, -⟩ := Settings.readsAlike order' order _ _ hread'
          rw [hread] at hs
          cases hs
      | error r' =>
          have hfaultless := Settings.faultless_read (order.value (.map (override overrides es)))
          have hfaultless' := Settings.faultless_read (order'.value (.map (override overrides es)))
          cases r with
          | fault f => exact absurd hread (hfaultless f)
          | problems ps =>
            cases r' with
            | fault f => exact absurd hread' (hfaultless' f)
            | problems qs => exact .invalid ps qs

/-- What is found in a configuration differs in the order of peer addresses, or in the problems of
values that do not fit. -/
theorem ofWritten_apart (written : Except ConfigFailure (List (Scalar × Value)))
    (hone : Value.entriesHaveOneOrder overrides = true) :
    Apart (ofWritten order written overrides) (ofWritten order' written overrides) := by
  cases written with
  | error e => exact .failed e
  | ok es => exact ofEntries_apart order order' es hone

end Config

end ControlPlane
