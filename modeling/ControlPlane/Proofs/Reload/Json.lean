import ControlPlane.Manifest.Workload
import ControlPlane.Proofs.Admission
import ControlPlane.Proofs.NormalForm
import ControlPlane.Proofs.Reload.Contents
import Mathlib.Data.List.Induction
import Mathlib.Data.Nat.Digits.Defs

/-!
# Values given as JSON

What is read from JSON data is written as a wire form that can be printed and loaded again
(`Shape.isData_write`): no key stands twice in an object, and every integer has a text that is short
enough.  How deep the wire form is depends on the shape alone (`Shape.depth_write`).
-/

namespace ControlPlane

/-! ## JSON -/

/-- A value of JSON without parts. -/
def Scalar.IsJson : Scalar → Prop
  | .int i => Integer.isPrintable i = true
  | .bytes _ => False
  | .date _ => False
  | .timestamp _ => False
  | _ => True

/-- A value of JSON: integers can be printed, since they were given by their digits, and an object
has texts as keys, none of them twice. -/
inductive Value.IsJson : Value → Prop where
  | scalar {s : Scalar} (h : s.IsJson) : IsJson (.scalar s)
  | list {vs : List Value} (h : ∀ v ∈ vs, IsJson v) : IsJson (.list vs)
  | map {es : List (Scalar × Value)} (nodup : (es.map Prod.fst).Nodup)
      (texts : ∀ e ∈ es, ∃ k, e.1 = .text k) (values : ∀ e ∈ es, IsJson e.2) : IsJson (.map es)

/-! ## integers -/

section Integers

variable {i : Int} {v : Value}

/-- Integers with few digits can be printed. -/
theorem isPrintable_of_lt (h : i.natAbs < 10 ^ Integer.digitLimit) :
    Integer.isPrintable i = true := by
  have hlength : (toString i.natAbs).length ≤ Integer.digitLimit :=
    Nat.repr_length i.natAbs _ (by decide) h
  exact decide_eq_true hlength

theorem digitsValue_lt {ds : List Nat} (h : ∀ d ∈ ds, d < 10) :
    Text.digitsValue 10 ds < 10 ^ ds.length := by
  induction ds using List.reverseRecOn with
  | nil => decide
  | append_singleton ds d ih =>
      have hds := ih fun e he => h e (List.mem_append_left _ he)
      have hd := h d (by simp)
      rw [Text.digitsValue_append_singleton, List.length_append, List.length_singleton,
        Nat.pow_succ]
      omega

theorem plainValue_lt {cs : List Char} (h : ∀ c ∈ cs, Integer.isPlainDigit c = true) :
    Integer.plainValue cs < 10 ^ cs.length := by
  have hdigits : ∀ d ∈ cs.map (fun c => c.toNat - '0'.toNat), d < 10 := by
    intro d hd
    obtain ⟨c, hc, rfl⟩ := List.mem_map.mp hd
    have hbounds := Yaml.isPlainDigit_iff.mp (h c hc)
    show c.toNat - 48 < 10
    omega
  simpa [Integer.plainValue] using digitsValue_lt hdigits

theorem plainNat_lt {cs : List Char} {n : Nat} (h : Integer.plainNat cs = .ok n) :
    n < 10 ^ Integer.digitLimit := by
  have hpositive : 0 < 10 ^ Integer.digitLimit := Nat.pow_pos (by decide)
  unfold Integer.plainNat at h
  dsimp only at h
  split at h
  · cases h
  · split at h
    · cases h
      exact hpositive
    · cases h
  · cases h
  · next hdigits _ _ _ =>
    split at h
    · cases h
    · next hlength =>
      split at h
      · cases h
        have hvalue : Integer.plainValue (cs.takeWhile Integer.isPlainDigit)
            < 10 ^ (cs.takeWhile Integer.isPlainDigit).length :=
          plainValue_lt fun c hc => List.mem_takeWhile_imp hc
        exact Nat.lt_of_lt_of_le hvalue
          (Nat.pow_le_pow_right (by decide) (Nat.le_of_not_lt hlength))
      · cases h

theorem isPrintable_of_plain {cs : List Char} (h : Integer.plain cs = .ok i) :
    Integer.isPrintable i = true := by
  unfold Integer.plain at h
  split at h
  · next rest =>
    cases hn : Integer.plainNat rest with
    | error flaw => rw [hn] at h; cases h
    | ok n =>
        rw [hn] at h
        cases h
        exact isPrintable_of_lt (by rw [Int.natAbs_neg]; exact plainNat_lt hn)
  · cases hn : Integer.plainNat cs with
    | error flaw => rw [hn] at h; cases h
    | ok n =>
        rw [hn] at h
        cases h
        exact isPrintable_of_lt (plainNat_lt hn)

theorem isPrintable_of_lenient {cs : List Char} (h : Integer.lenient cs = .ok i) :
    Integer.isPrintable i = true := by
  unfold Integer.lenient at h
  split at h
  · split at h
    · next hplain =>
      cases h
      obtain ⟨simple, -, hplain⟩ := Option.map_eq_some_iff.mp hplain
      exact isPrintable_of_plain hplain
    · cases h
  · exact isPrintable_of_plain h

theorem isPrintable_of_integerOfText {s : String} (h : integerOfText s = .ok i) :
    Integer.isPrintable i = true := by
  unfold integerOfText at h
  split at h
  · next hlenient =>
    cases h
    exact isPrintable_of_lenient hlenient
  · cases h
  · cases h

theorem isPrintable_of_wholeFloat {x : Binary64} (h : wholeFloat x = .ok i) :
    Integer.isPrintable i = true := by
  unfold wholeFloat at h
  split at h
  · cases h
  · split at h
    · cases h
    · split at h
      · next hbounds =>
        cases h
        have hpow : 10 ^ 19 ≤ 10 ^ Integer.digitLimit :=
          Nat.pow_le_pow_right (by decide) (by decide)
        refine isPrintable_of_lt (Nat.lt_of_lt_of_le ?_ hpow)
        rw [intLimit] at hbounds
        omega
      · cases h

/-- An integer that was read from JSON data can be printed. -/
theorem isPrintable_of_integerOf (hv : v.IsJson) (h : integerOf v = .ok i) :
    Integer.isPrintable i = true := by
  cases hv with
  | @scalar s hs =>
      cases s with
      | int j =>
          cases h
          exact hs
      | bool b =>
          cases h
          cases b <;> decide
      | float x => exact isPrintable_of_wholeFloat h
      | text s => exact isPrintable_of_integerOfText h
      | bytes bs => cases hs
      | _ => cases h
  | list => cases h
  | map => cases h

theorem isPrintable_of_readInteger {bounds : Bounds} (hv : v.IsJson)
    (h : readInteger bounds v = .ok i) : Integer.isPrintable i = true := by
  unfold readInteger at h
  split at h
  · cases h
  · next hinteger =>
    split at h
    · cases h
    · cases h
      exact isPrintable_of_integerOf hv hinteger

theorem isPrintable_of_readPort (hv : v.IsJson) (h : readPort v = .ok (.number i)) :
    Integer.isPrintable i = true := by
  unfold readPort at h
  split at h
  · cases h
  · split at h
    · next hinteger =>
      cases h
      exact isPrintable_of_integerOf hv hinteger
    · cases h
    · split at h <;> cases h

end Integers

/-! ## depths of shapes -/

mutual

/-- How deep collections lie in each other in what the shape writes. -/
def Shape.depth : {α : Type} → Shape α → Nat
  | _, .contribution proper => proper.depth
  | _, .list item => item.depth + 1
  | _, .tuple item => item.depth + 1
  | _, .map item => item.depth + 1
  | _, .record _ fields _ => fields.depth + 1
  | _, _ => 0

/-- How deep the deepest field is. -/
def Fields.depth : {ρ : Type} → Fields ρ → Nat
  | _, .nil => 0
  | _, .required _ shape rest => max shape.depth rest.depth
  | _, .optional _ shape rest => max shape.depth rest.depth
  | _, .defaulted _ shape _ rest => max shape.depth rest.depth

end

namespace Wire

variable {n : Nat}

theorem depthOfItems_le {ws : List Wire} (h : ∀ w ∈ ws, w.depth ≤ n) : depthOfItems ws ≤ n := by
  induction ws with
  | nil => exact Nat.zero_le n
  | cons w ws ih =>
      exact Nat.max_le.mpr
        ⟨h w List.mem_cons_self, ih fun w' hw' => h w' (List.mem_cons_of_mem w hw')⟩

theorem depthOfEntries_le {es : List (String × Wire)} (h : ∀ e ∈ es, e.2.depth ≤ n) :
    depthOfEntries es ≤ n := by
  induction es with
  | nil => exact Nat.zero_le n
  | cons e es ih =>
      exact Nat.max_le.mpr
        ⟨h e List.mem_cons_self, ih fun e' he' => h e' (List.mem_cons_of_mem e he')⟩

end Wire

mutual

/-- What is written is no deeper than the shape. -/
theorem Shape.depth_write : {α : Type} → (s : Shape α) → {a : α} → s.admits a = true →
    (s.write a).depth ≤ s.depth
  | _, .text _, _, _ => Nat.le_refl 0
  | _, .integer _, _, _ => Nat.le_refl 0
  | _, .boolean, _, _ => Nat.le_refl 0
  | _, .choice _, _, _ => Nat.le_refl 0
  | _, .quantity, _, _ => Nat.le_refl 0
  | _, .port, .number _, _ => Nat.le_refl 0
  | _, .port, .name _, _ => Nat.le_refl 0
  | _, .contribution proper, .proper a, h => proper.depth_write (a := a) h
  | _, .list item, xs, h => Nat.succ_le_succ <| Wire.depthOfItems_le fun w hw => by
      obtain ⟨x, hx, rfl⟩ := List.mem_map.mp hw
      exact item.depth_write (List.all_eq_true.mp h x hx)
  | _, .tuple item, xs, h => Nat.succ_le_succ <| Wire.depthOfItems_le fun w hw => by
      obtain ⟨x, hx, rfl⟩ := List.mem_map.mp hw
      exact item.depth_write (List.all_eq_true.mp h x hx)
  | _, .map item, es, h => Nat.succ_le_succ <| Wire.depthOfEntries_le fun e he => by
      obtain ⟨f, hf, rfl⟩ := List.mem_map.mp he
      exact item.depth_write (List.all_eq_true.mp h f hf)
  | _, .record style fields packing, a, h =>
      Nat.succ_le_succ <| Wire.depthOfEntries_le (fields.depth_write style.absent h)

/-- What fields write is no deeper than the deepest of their shapes. -/
theorem Fields.depth_write : {ρ : Type} → (fs : Fields ρ) → (absent : Absent) → {r : ρ} →
    fs.admits r = true → ∀ e ∈ fs.write absent r, e.2.depth ≤ fs.depth
  | _, .nil, _, _, _ => by simp [Fields.write]
  | _, .required keys shape rest, absent, (a, r), h => by
      obtain ⟨ha, hr⟩ := Bool.and_eq_true_iff.mp h
      have hrest := rest.depth_write absent hr
      refine List.forall_mem_cons.mpr ⟨?_, fun e he => ?_⟩
      · exact Nat.le_trans (shape.depth_write ha) (Nat.le_max_left _ _)
      · exact Nat.le_trans (hrest e he) (Nat.le_max_right _ _)
  | _, .optional keys shape rest, absent, (o, r), h => by
      obtain ⟨ho, hr⟩ := Bool.and_eq_true_iff.mp h
      have hrest := rest.depth_write absent hr
      refine List.forall_mem_append.mpr ⟨fun e he => ?_, fun e he => ?_⟩
      · cases o with
        | none =>
            cases absent with
            | omitted => cases he
            | kept =>
                rw [List.mem_singleton.mp he]
                exact Nat.zero_le _
        | some a =>
            rw [List.mem_singleton.mp he]
            exact Nat.le_trans (shape.depth_write ho) (Nat.le_max_left _ _)
      · exact Nat.le_trans (hrest e he) (Nat.le_max_right _ _)
  | _, .defaulted keys shape value rest, absent, (a, r), h => by
      obtain ⟨ha, hr⟩ := Bool.and_eq_true_iff.mp h
      have hrest := rest.depth_write absent hr
      refine List.forall_mem_cons.mpr ⟨?_, fun e he => ?_⟩
      · exact Nat.le_trans (shape.depth_write ha) (Nat.le_max_left _ _)
      · exact Nat.le_trans (hrest e he) (Nat.le_max_right _ _)

end

/-! ## what is read from JSON -/

/-- Whether the defaults of fields are written as data. -/
def Fields.haveDataDefaults : {ρ : Type} → Fields ρ → Bool
  | _, .nil => true
  | _, .required _ _ rest => rest.haveDataDefaults
  | _, .optional _ _ rest => rest.haveDataDefaults
  | _, .defaulted _ shape value rest => decide (shape.write value).IsData && rest.haveDataDefaults

/-- Whether all defaults in the shape are written as data. -/
def Shape.defaultsAreData {α : Type} (s : Shape α) : Bool :=
  s.everyRecord fun _ _ fields => fields.haveDataDefaults

/-- Whether all defaults in the shapes of the fields are written as data. -/
def Fields.defaultsAreData {ρ : Type} (fs : Fields ρ) : Bool :=
  fs.everyRecord fun _ _ fields => fields.haveDataDefaults

/-- Keys that are apart are distinct. -/
theorem FieldKeys.nodup_of_apart {ks : List FieldKeys} (h : ks.Pairwise Apart) :
    (ks.map FieldKeys.key).Nodup := by
  refine List.pairwise_map.mpr (h.imp fun hapart heq => ?_)
  exact hapart.1 (List.mem_cons.mpr (.inl heq.symm))

/-- A field is given one of the values of the entries. -/
theorem FieldKeys.mem_of_find? {keys : FieldKeys} {entries : List (Scalar × Value)} {key : String}
    {v : Value} (h : keys.find? entries = some (key, v)) : ∃ e ∈ entries, e.2 = v := by
  have hget {entries : List (Scalar × Value)} {name : String}
      (h : Value.field? name entries = some v) : ∃ e ∈ entries, e.2 = v := by
    induction entries with
    | nil => cases h
    | cons e entries ih =>
        unfold Value.field? Entries.get? at h
        split at h
        · exact ⟨e, List.mem_cons_self, Option.some.inj h⟩
        · obtain ⟨e', he', hvalue⟩ := ih h
          exact ⟨e', List.mem_cons_of_mem e he', hvalue⟩
  unfold FieldKeys.find? at h
  split at h
  · next hfield =>
    cases h
    exact hget hfield
  · obtain ⟨w, hfield, heq⟩ := Option.map_eq_some_iff.mp h
    cases heq
    exact hget hfield

/-- Whatever is read as an item of JSON data is an item of JSON data. -/
theorem Value.IsJson.items {v : Value} {vs : List Value} (hv : v.IsJson) (h : v.items? = some vs) :
    ∀ w ∈ vs, w.IsJson := by
  cases hv with
  | scalar => cases h
  | list hvs =>
      cases h
      exact hvs
  | map => cases h

/-- Items that are each read from one of some values. -/
theorem areData_map {α : Type} {item : Value → Reading α} {write : α → Wire} {vs : List Value}
    {xs : List α} (hread : List.Forall₂ (fun v x => item v = .ok x) vs xs)
    (h : ∀ v ∈ vs, ∀ x, item v = .ok x → (write x).IsData) : Wire.AreData (xs.map write) := by
  induction hread with
  | nil => trivial
  | cons hx _ ih =>
      exact ⟨h _ List.mem_cons_self _ hx, ih fun v hv => h v (List.mem_cons_of_mem _ hv)⟩

section Entries

variable {α : Type} {item : Value → Reading α} {given : List (Scalar × Value)}
  {es : Entries String α}

/-- Keys that are texts are read as they are. -/
theorem map_key_eq (htexts : ∀ e ∈ given, ∃ k, e.1 = .text k)
    (hread : List.Forall₂ (fun e f => readText 0 (.scalar e.1) = .ok f.1 ∧ item e.2 = .ok f.2)
      given es) : given.map Prod.fst = es.map fun e => Scalar.text e.1 := by
  induction hread with
  | nil => rfl
  | @cons e f _ _ hef _ ih =>
      obtain ⟨k, hk⟩ := htexts e List.mem_cons_self
      rw [hk] at hef
      have hkey : k = f.1 := Except.ok.inj hef.1
      rw [List.map_cons, List.map_cons, hk, hkey,
        ih fun e' he' => htexts e' (List.mem_cons_of_mem e he')]

theorem holdData_map {write : α → Wire} (hvalues : ∀ e ∈ given, e.2.IsJson)
    (hread : List.Forall₂ (fun e f => readText 0 (.scalar e.1) = .ok f.1 ∧ item e.2 = .ok f.2)
      given es)
    (h : ∀ w, w.IsJson → ∀ x, item w = .ok x → (write x).IsData) :
    Wire.HoldData (es.map fun e => (e.1, write e.2)) := by
  induction hread with
  | nil => trivial
  | @cons e f _ _ hef _ ih =>
      exact ⟨h e.2 (hvalues e List.mem_cons_self) f.2 hef.2,
        ih fun e' he' => hvalues e' (List.mem_cons_of_mem e he')⟩

/-- The entries of a mapping that are each read from one of JSON data. -/
theorem isData_entries {write : α → Wire} {v : Value} (hv : v.IsJson)
    (hread : readEntries item v = .ok es)
    (h : ∀ w, w.IsJson → ∀ x, item w = .ok x → (write x).IsData) :
    (Wire.object (es.map fun e => (e.1, write e.2))).IsData := by
  obtain ⟨given, rfl, hentries⟩ := readEntries_eq_ok_iff.mp hread
  cases hv with
  | map hnodup htexts hvalues =>
      rw [map_key_eq htexts hentries] at hnodup
      refine ⟨?_, holdData_map hvalues hentries h⟩
      rw [List.map_map]
      exact List.pairwise_map.mpr
        ((List.pairwise_map.mp hnodup).imp fun hne heq => hne (congrArg Scalar.text heq))

end Entries

mutual

/-- What was read from JSON data is written as data. -/
theorem Shape.isData_write : {α : Type} → (s : Shape α) → s.keysApart = true →
    s.defaultsAreData = true → {v : Value} → v.IsJson → {a : α} → s.read v = .ok a →
    (s.write a).IsData
  | _, .text _, _, _, _, _, _, _ => trivial
  | _, .integer _, _, _, _, hv, _, h => isPrintable_of_readInteger hv h
  | _, .boolean, _, _, _, _, _, _ => trivial
  | _, .choice _, _, _, _, _, _, _ => trivial
  | _, .quantity, _, _, _, _, _, _ => trivial
  | _, .port, _, _, _, hv, .number _, h => isPrintable_of_readPort hv h
  | _, .port, _, _, _, _, .name _, _ => trivial
  | _, .contribution proper, hk, hd, v, hv, c, h => by
      obtain ⟨a, ha, rfl⟩ := Reading.map_eq_ok_iff.mp h
      exact proper.isData_write hk hd hv ha
  | _, .list item, hk, hd, v, hv, xs, h => by
      obtain ⟨vs, hitems, hread⟩ := readItems_eq_ok_iff.mp h
      exact areData_map hread fun w hw x hx => item.isData_write hk hd (hv.items hitems w hw) hx
  | _, .tuple item, hk, hd, v, hv, xs, h => by
      obtain ⟨vs, hitems, hread⟩ := readItems_eq_ok_iff.mp h
      exact areData_map hread fun w hw x hx => item.isData_write hk hd (hv.items hitems w hw) hx
  | _, .map item, hk, hd, v, hv, es, h =>
      isData_entries hv h fun w hw x hx => item.isData_write hk hd hw hx
  | _, .record style fields packing, hk, hd, v, hv, a, h => by
      cases hv with
      | map hnodup htexts hvalues =>
          obtain ⟨hapart, hk⟩ := Bool.and_eq_true_iff.mp hk
          obtain ⟨hown, hd⟩ := Bool.and_eq_true_iff.mp hd
          obtain ⟨p, hp, rfl⟩ := Reading.map_eq_ok_iff.mp h
          have hdata := fields.isData_write style.absent hk hown hd hvalues
            (Reading.both_eq_ok_iff.mp hp).1
          rw [Shape.write, packing.unpack_pack]
          refine ⟨?_, Wire.holdData_iff.mpr hdata⟩
          exact (fields.map_fst_write_sublist style.absent p.1).nodup
            (FieldKeys.nodup_of_apart (of_decide_eq_true hapart))
      | _ => cases h

/-- Fields that were read from JSON data are written as data. -/
theorem Fields.isData_write : {ρ : Type} → (fs : Fields ρ) → (absent : Absent) →
    fs.keysApart = true → fs.haveDataDefaults = true → fs.defaultsAreData = true →
    {entries : List (Scalar × Value)} → (∀ e ∈ entries, e.2.IsJson) → {r : ρ} →
    fs.read entries = .ok r → ∀ e ∈ fs.write absent r, e.2.IsData
  | _, .nil, _, _, _, _, _, _, _, _ => by simp [Fields.write]
  | _, .required keys shape rest, absent, hk, hown, hd, entries, hvalues, (a, r), h => by
      obtain ⟨hks, hkr⟩ := Bool.and_eq_true_iff.mp hk
      obtain ⟨hds, hdr⟩ := Bool.and_eq_true_iff.mp hd
      obtain ⟨ha, hrest⟩ := Reading.both_eq_ok_iff.mp h
      refine List.forall_mem_cons.mpr ⟨?_, rest.isData_write absent hkr hown hdr hvalues hrest⟩
      split at ha
      · next key v hfind =>
          obtain ⟨e, he, rfl⟩ := FieldKeys.mem_of_find? hfind
          exact shape.isData_write hks hds (hvalues e he) (Reading.under_eq_ok_iff.mp ha)
      · cases ha
  | _, .optional keys shape rest, absent, hk, hown, hd, entries, hvalues, (o, r), h => by
      obtain ⟨hks, hkr⟩ := Bool.and_eq_true_iff.mp hk
      obtain ⟨hds, hdr⟩ := Bool.and_eq_true_iff.mp hd
      obtain ⟨ho, hrest⟩ := Reading.both_eq_ok_iff.mp h
      refine List.forall_mem_append.mpr ⟨fun e he => ?_,
        rest.isData_write absent hkr hown hdr hvalues hrest⟩
      cases o with
      | none =>
          cases absent with
          | omitted => cases he
          | kept =>
              rw [List.mem_singleton.mp he]
              trivial
      | some a =>
          rw [List.mem_singleton.mp he]
          split at ho
          · next key v hfind =>
              obtain ⟨e, he, rfl⟩ := FieldKeys.mem_of_find? hfind
              split at ho
              · cases ho
              · obtain ⟨a', ha, heq⟩ := Reading.map_eq_ok_iff.mp (Reading.under_eq_ok_iff.mp ho)
                cases heq
                exact shape.isData_write hks hds (hvalues e he) ha
          · cases ho
  | _, .defaulted keys shape value rest, absent, hk, hown, hd, entries, hvalues, (a, r), h => by
      obtain ⟨hks, hkr⟩ := Bool.and_eq_true_iff.mp hk
      obtain ⟨hds, hdr⟩ := Bool.and_eq_true_iff.mp hd
      obtain ⟨hvalue, hown⟩ := Bool.and_eq_true_iff.mp hown
      obtain ⟨ha, hrest⟩ := Reading.both_eq_ok_iff.mp h
      refine List.forall_mem_cons.mpr ⟨?_, rest.isData_write absent hkr hown hdr hvalues hrest⟩
      split at ha
      · next key v hfind =>
          obtain ⟨e, he, rfl⟩ := FieldKeys.mem_of_find? hfind
          exact shape.isData_write hks hds (hvalues e he) (Reading.under_eq_ok_iff.mp ha)
      · cases ha
        exact of_decide_eq_true hvalue

end

/-! ## what is JSON itself -/

namespace Wire

mutual

/-- A wire form of data is a value of JSON. -/
theorem IsData.isJson_toValue : ∀ w : Wire, w.IsData → w.toValue.IsJson
  | .null, _ => .scalar trivial
  | .bool _, _ => .scalar trivial
  | .int _, h => .scalar h
  | .text _, _ => .scalar trivial
  | .list ws, h => .list (isJson_toValues ws h)
  | .object es, h => by
      have hkeys : (toEntries es).map Prod.fst = (es.map Prod.fst).map Scalar.text := by
        rw [toEntries_eq_map, List.map_map, List.map_map]
        rfl
      have htexts : ∀ e ∈ toEntries es, ∃ k, e.1 = .text k := by
        intro e he
        rw [toEntries_eq_map] at he
        obtain ⟨f, -, rfl⟩ := List.mem_map.mp he
        exact ⟨f.1, rfl⟩
      refine .map ?_ htexts (isJson_toEntries es h.2)
      rw [hkeys]
      exact List.pairwise_map.mpr (h.1.imp fun hne heq => hne (Scalar.text.inj heq))

theorem isJson_toValues : ∀ ws : List Wire, AreData ws → ∀ v ∈ toValues ws, v.IsJson
  | [], _ => fun _ hv => by cases hv
  | w :: ws, h => List.forall_mem_cons.mpr ⟨IsData.isJson_toValue w h.1, isJson_toValues ws h.2⟩

theorem isJson_toEntries : ∀ es : List (String × Wire), HoldData es →
    ∀ e ∈ toEntries es, e.2.IsJson
  | [], _ => fun _ he => by cases he
  | (_, w) :: es, h =>
    List.forall_mem_cons.mpr ⟨IsData.isJson_toValue w h.1, isJson_toEntries es h.2⟩

end

end Wire

/-! ## manifests -/

namespace Manifest

theorem regular_shape : shape.keysApart = true ∧ shape.defaultsFit = true ∧
    shape.defaultsAreData = true := by decide +kernel

theorem depth_shape : shape.depth = 10 := by decide +kernel

/-- The wire form of a manifest that was read from JSON data. -/
theorem isData_toWire {v : Value} {m : Manifest} (hv : v.IsJson) (h : shape.read v = .ok m) :
    m.toWire.IsData :=
  shape.isData_write regular_shape.1 regular_shape.2.2 hv h

theorem depth_toWire {v : Value} {m : Manifest} (h : shape.read v = .ok m) :
    m.toWire.depth ≤ 10 := by
  rw [← depth_shape]
  exact shape.depth_write (shape.admits_of_read regular_shape.2.1 h)

end Manifest

end ControlPlane
