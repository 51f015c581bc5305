import ControlPlane.Proofs.Reload.Nodes
import ControlPlane.Yaml.Content

/-!
# From nodes to values

The node of a wire form has the value of that form (`value_nodeAt`), if its objects have no key
twice and its integers can be printed.  All tags of such a node are those of JSON, so nothing is
merged and nothing settles, and going through the steps of the document only opens collections
(`Step.IsCalm`).
-/

namespace ControlPlane

/-! ## distinct keys -/

namespace Entries

variable {κ α : Type} {same : κ → κ → Bool}

theorem put_of_new {k : κ} {v : α} {m : Entries κ α} (h : ∀ e ∈ m, same e.1 k = false) :
    put same k v m = m ++ [(k, v)] := by
  induction m with
  | nil => rfl
  | cons e m ih =>
      have he := h e List.mem_cons_self
      rw [put, he, ih fun e' he' => h e' (List.mem_cons_of_mem e he')]
      rfl

/-- Entries with distinct keys are set one behind the other. -/
theorem putAll_of_pairwise {new old : Entries κ α}
    (h : (old ++ new).Pairwise fun a b => same a.1 b.1 = false) :
    putAll same new old = old ++ new := by
  induction new generalizing old with
  | nil => simp
  | cons e new ih =>
      have hnew : ∀ e' ∈ old, same e'.1 e.1 = false := fun e' he' =>
        (List.pairwise_append.mp h).2.2 e' he' e List.mem_cons_self
      rw [putAll_cons, put_of_new hnew, ih (by simpa using h)]
      simp

end Entries

namespace Wire

mutual

/-- The objects have no key twice, and the integers can be printed. -/
def IsData : Wire → Prop
  | .int i => Integer.isPrintable i = true
  | .list ws => AreData ws
  | .object es => (es.map Prod.fst).Nodup ∧ HoldData es
  | _ => True

/-- All items are such. -/
def AreData : List Wire → Prop
  | [] => True
  | w :: ws => w.IsData ∧ AreData ws

/-- The values of all entries are such. -/
def HoldData : List (String × Wire) → Prop
  | [] => True
  | (_, w) :: es => w.IsData ∧ HoldData es

end

mutual

def decidableIsData : (w : Wire) → Decidable w.IsData
  | .null => .isTrue trivial
  | .bool _ => .isTrue trivial
  | .int i => inferInstanceAs (Decidable (Integer.isPrintable i = true))
  | .text _ => .isTrue trivial
  | .list ws => decidableAreData ws
  | .object es => @instDecidableAnd _ _ inferInstance (decidableHoldData es)

def decidableAreData : (ws : List Wire) → Decidable (AreData ws)
  | [] => .isTrue trivial
  | w :: ws => @instDecidableAnd _ _ (decidableIsData w) (decidableAreData ws)

def decidableHoldData : (es : List (String × Wire)) → Decidable (HoldData es)
  | [] => .isTrue trivial
  | (_, w) :: es => @instDecidableAnd _ _ (decidableIsData w) (decidableHoldData es)

end

instance : DecidablePred IsData := decidableIsData

theorem holdData_iff {es : List (String × Wire)} : HoldData es ↔ ∀ e ∈ es, e.2.IsData := by
  induction es with
  | nil => simp [HoldData]
  | cons e es ih => simp [HoldData, ih]

end Wire

namespace Yaml

/-! ## steps -/

namespace Step

/-- Nothing is wrong with a content, nor with what is within it. -/
inductive IsCalm : Step → Prop where
  | content {node : Nat} {steps : List Step} (h : ∀ s ∈ steps, s.IsCalm) :
      IsCalm (.content node steps)

/-- There is no fault among calm steps. -/
theorem firstFault?_of_isCalm {known : Nat → List Step} {fuel : Nat} {settled seen : List Nat}
    {later : List (List Step)} {steps : List Step} (hsteps : ∀ s ∈ steps, s.IsCalm)
    (hlater : ∀ ss ∈ later, ∀ s ∈ ss, s.IsCalm) :
    firstFault? known fuel settled seen later steps = none := by
  induction fuel generalizing settled seen later steps with
  | zero => rfl
  | succ fuel ih =>
      cases steps with
      | nil =>
          rw [firstFault?]
          split
          · rfl
          · refine ih ?_ (by simp)
            intro s hs
            obtain ⟨ss, hss, hs⟩ := List.mem_flatten.mp hs
            exact hlater ss (List.mem_reverse.mp hss) s hs
      | cons step rest =>
          have hrest : ∀ s ∈ rest, s.IsCalm := fun s hs => hsteps s (List.mem_cons_of_mem step hs)
          cases hsteps step List.mem_cons_self with
          | content hinner =>
              simp only [firstFault?]
              split
              · exact ih hrest hlater
              · exact ih hrest (List.forall_mem_cons.mpr ⟨hinner, hlater⟩)

end Step

/-! ## building -/

/-- A node becomes a value, and nothing is wrong with it. -/
structure BuildsTo (b : Built) (v : Value) : Prop where
  value : b.value = v
  identity : b.identity = 0
  calm : ∀ s ∈ b.steps, s.IsCalm

namespace Document

variable {d : Document} {known : List (Nat × Built)} {fuel i : Nat} {around : List Nat}

/-- A scalar under a tag of JSON. -/
theorem buildsTo_scalar {tag : Tag} {text : List Char} {s : Scalar} (hsize : 0 < d.size)
    (haround : i ∉ around) (htag : tag ∈ [Tag.null, .bool, .int, .text])
    (hread : tag.read text = .ok s) (hnumber : s ≠ .float .nan) :
    BuildsTo (d.build known (fuel + 1) around (.scalar i tag text)) (.scalar s) := by
  have hbuild : d.build known (fuel + 1) around (.scalar i tag text)
      = d.buildScalar tag (.scalar i tag text) := by
    have hcontains : around.contains i = false := by simpa using haround
    rw [build]
    simp only [Node.tag?, Node.serial, hcontains]
    simp only [List.mem_cons, List.not_mem_nil, or_false] at htag
    obtain rfl | rfl | rfl | rfl := htag <;> rfl
  obtain ⟨size, hsize⟩ : ∃ size, d.size = size + 1 := ⟨d.size - 1, by omega⟩
  have htext : d.scalarText d.size (.scalar i tag text) = ([], .ok text) := by
    rw [hsize]
    rfl
  have htyped : Node.typed tag text (.scalar i tag text) = .ok s := hread
  rw [hbuild, buildScalar, htext]
  simp only [htyped, hnumber, false_and]
  exact ⟨rfl, rfl, fun s hs => by cases hs⟩

/-- Items that become values, one by one. -/
def Builds (build : Node → Built) (ns : List Node) (vs : List Value) : Prop :=
  List.Forall₂ (fun n v => BuildsTo (build n) v) ns vs

theorem Builds.map_value {build : Node → Built} {ns : List Node} {vs : List Value}
    (h : Builds build ns vs) : (ns.map build).map (·.value) = vs := by
  induction h with
  | nil => rfl
  | cons hn _ ih => rw [List.map_cons, List.map_cons, hn.value, ih]

theorem Builds.calm {build : Node → Built} {ns : List Node} {vs : List Value}
    (h : Builds build ns vs) : ∀ s ∈ (ns.map build).flatMap (·.steps), s.IsCalm := by
  induction h with
  | nil => simp
  | cons hn _ ih =>
      rw [List.map_cons, List.flatMap_cons]
      exact List.forall_mem_append.mpr ⟨hn.calm, ih⟩

/-- A list. -/
theorem buildsTo_list {ns : List Node} {vs : List Value} (haround : i ∉ around)
    (h : Builds (d.build known fuel (i :: around)) ns vs) :
    BuildsTo (d.build known (fuel + 1) around (.list i .list ns)) (.list vs) := by
  have hbuild : d.build known (fuel + 1) around (.list i .list ns)
      = buildList (d.build known fuel (i :: around)) (.list i .list ns) := by
    have hcontains : around.contains i = false := by simpa using haround
    rw [build]
    simp only [Node.tag?, Node.serial, hcontains]
    rfl
  rw [hbuild, buildList]
  refine ⟨?_, rfl, ?_⟩
  · rw [h.map_value]
  · intro s hs
    rw [List.mem_singleton.mp hs]
    exact .content h.calm

/-! ## mappings -/

/-- The key of the entry is a text. -/
def HasTextKey (e : Node × Node) : Prop := ∃ j cs, e.1 = .scalar j .text cs

namespace HasTextKey

variable {e : Node × Node} {entries : List (Node × Node)}

theorem isMerge (h : HasTextKey e) : d.isMerge e = false := by
  obtain ⟨j, cs, hkey⟩ := h
  rw [Document.isMerge, hkey]
  rfl

theorem asKey (h : HasTextKey e) : d.asKey e.1 = e.1 := by
  obtain ⟨j, cs, hkey⟩ := h
  rw [hkey]
  rfl

theorem tag (h : HasTextKey e) : d.tag e.1 = .text := by
  obtain ⟨j, cs, hkey⟩ := h
  rw [hkey]
  rfl

theorem any_isMerge (h : ∀ e ∈ entries, HasTextKey e) : entries.any d.isMerge = false :=
  List.any_eq_false.mpr fun e he => by simp [(h e he).isMerge]

end HasTextKey

section Maps

variable {entries : List (Node × Node)}

/-- No other mapping is merged into one whose keys are texts. -/
theorem mergedEntries_of_hasTextKey (h : ∀ e ∈ entries, HasTextKey e) (hsize : 0 < d.size) :
    d.mergedEntries d.size [] (.map i .map entries) = .ok entries := by
  obtain ⟨size, hsize⟩ : ∃ size, d.size = size + 1 := ⟨d.size - 1, by omega⟩
  have hnone : entries.filter d.isMerge = [] :=
    List.filter_eq_nil_iff.mpr fun e he => by simp [(h e he).isMerge]
  have hall : entries.filter (fun e => !d.isMerge e) = entries :=
    List.filter_eq_self.mpr fun e he => by simp [(h e he).isMerge]
  have hkeys : entries.map (fun e => (d.asKey e.1, e.2)) = entries :=
    (List.map_congr_left fun e he => by rw [(h e he).asKey]).trans (List.map_id' entries)
  rw [hsize, mergedEntries]
  simp only [resolve, hnone, hall, hkeys]
  rfl

/-- Nothing settles with a mapping whose keys are texts. -/
theorem settledWith_of_hasTextKey (h : ∀ e ∈ entries, HasTextKey e) (size : Nat) :
    d.settledWith size [] (.map i .map entries) = [] := by
  cases size with
  | zero => rfl
  | succ size =>
      rw [settledWith]
      simp only [resolve, HasTextKey.any_isMerge h]
      refine List.flatMap_eq_nil_iff.mpr fun e he => ?_
      simp [(h e he).tag, (h e he).isMerge]

/-- Entries with texts as keys that become entries of values, one by one. -/
def BuildsEntries (build : Node → Built) (entries : List (Node × Node))
    (es : List (String × Value)) : Prop :=
  List.Forall₂
    (fun n e => HasTextKey n ∧ BuildsTo (build n.1) (.text e.1) ∧ BuildsTo (build n.2) e.2)
    entries es

namespace BuildsEntries

variable {build : Node → Built} {es : List (String × Value)}

theorem hasTextKey (h : BuildsEntries build entries es) : ∀ e ∈ entries, HasTextKey e := by
  induction h with
  | nil => simp
  | cons hn _ ih => exact List.forall_mem_cons.mpr ⟨hn.1, ih⟩

theorem of_eq {k v : Built} {key : String} {value : Value} (hk : BuildsTo k (.text key))
    (hv : BuildsTo v value) : BuiltEntry.of k v = ⟨.text key, 0, value, k.steps ++ v.steps⟩ := by
  have hkey : k.key? = some (.text key) := by rw [Built.key?, hk.value]
  rw [BuiltEntry.of, hkey, hk.identity, hv.value]

theorem map_entry (h : BuildsEntries build entries es) :
    ((entries.map fun e => BuiltEntry.of (build e.1) (build e.2)).map
        fun e => ((e.key, e.identity), e.value))
      = es.map fun e => ((Scalar.text e.1, 0), e.2) := by
  induction h with
  | nil => rfl
  | cons hn _ ih =>
      rw [List.map_cons, List.map_cons, List.map_cons, ih, of_eq hn.2.1 hn.2.2]

theorem calm (h : BuildsEntries build entries es) :
    ∀ s ∈ (entries.map fun e => BuiltEntry.of (build e.1) (build e.2)).flatMap (·.steps),
      s.IsCalm := by
  induction h with
  | nil => simp
  | cons hn _ ih =>
      rw [List.map_cons, List.flatMap_cons, of_eq hn.2.1 hn.2.2]
      exact List.forall_mem_append.mpr
        ⟨List.forall_mem_append.mpr ⟨hn.2.1.calm, hn.2.2.calm⟩, ih⟩

/-- Distinct keys are all kept. -/
theorem collect (h : BuildsEntries build entries es) (hnodup : (es.map Prod.fst).Nodup) :
    BuiltEntry.collect (entries.map fun e => BuiltEntry.of (build e.1) (build e.2))
      = es.map fun e => (Scalar.text e.1, e.2) := by
  have hpairwise : es.Pairwise fun a b => a.1 ≠ b.1 := List.pairwise_map.mp hnodup
  rw [BuiltEntry.collect, h.map_entry, Entries.putAll_of_pairwise]
  · simp
  · rw [List.nil_append, List.pairwise_map]
    refine hpairwise.imp fun hne => ?_
    simp [Scalar.sameKey, Scalar.integer?, hne]

end BuildsEntries

/-- A mapping. -/
theorem buildsTo_map {es : List (String × Value)} (hsize : 0 < d.size) (haround : i ∉ around)
    (h : BuildsEntries (d.build known fuel (i :: around)) entries es)
    (hnodup : (es.map Prod.fst).Nodup) :
    BuildsTo (d.build known (fuel + 1) around (.map i .map entries))
      (.map (es.map fun e => (.text e.1, e.2))) := by
  have hbuild : d.build known (fuel + 1) around (.map i .map entries)
      = d.buildEntries (d.build known fuel (i :: around)) .map (.map i .map entries) := by
    have hcontains : around.contains i = false := by simpa using haround
    rw [build]
    simp only [Node.tag?, Node.serial, hcontains]
    rfl
  rw [hbuild, buildEntries, mergedEntries_of_hasTextKey h.hasTextKey hsize,
    settledWith_of_hasTextKey h.hasTextKey]
  refine ⟨?_, rfl, ?_⟩
  · exact congrArg Value.map (h.collect hnodup)
  · intro s hs
    rw [List.mem_singleton.mp hs]
    exact .content h.calm

end Maps

/-! ## wire forms -/

theorem one_le_nodeCount (w : Wire) : 1 ≤ nodeCount w := by
  cases w <;> simp [nodeCount]

/-- The node of a wire form becomes the value of that form within collections with lower numbers. -/
def BuildsNode (d : Document) (w : Wire) : Prop :=
  w.IsData → ∀ {known : List (Nat × Built)} {fuel i : Nat} {around : List Nat},
    nodeCount w ≤ fuel → (∀ j ∈ around, j < i) →
    BuildsTo (d.build known fuel around (nodeAt i w)) w.toValue

/-- So do the nodes of items. -/
def BuildsItems (d : Document) (ws : List Wire) : Prop :=
  Wire.AreData ws → ∀ {known : List (Nat × Built)} {fuel i : Nat} {around : List Nat},
    itemCount ws ≤ fuel → (∀ j ∈ around, j < i) →
    Builds (d.build known fuel around) (itemsAt i ws) (Wire.toValues ws)

/-- So do the nodes of entries. -/
def BuildsFields (d : Document) (es : List (String × Wire)) : Prop :=
  Wire.HoldData es → ∀ {known : List (Nat × Built)} {fuel i : Nat} {around : List Nat},
    entryCount es ≤ fuel → (∀ j ∈ around, j < i) →
    BuildsEntries (d.build known fuel around) (entriesAt i es) (es.map fun e => (e.1, e.2.toValue))

section Wires

theorem notMem_of_lt (h : ∀ j ∈ around, j < i) : i ∉ around :=
  fun hi => Nat.lt_irrefl i (h i hi)

theorem lt_succ_of_mem_cons (h : ∀ j ∈ around, j < i) : ∀ j ∈ i :: around, j < i + 1 :=
  List.forall_mem_cons.mpr ⟨Nat.lt_succ_self i, fun j hj => Nat.lt_succ_of_lt (h j hj)⟩

theorem lt_add_of_mem (h : ∀ j ∈ around, j < i) (n : Nat) : ∀ j ∈ around, j < i + n :=
  fun j hj => Nat.lt_of_lt_of_le (h j hj) (Nat.le_add_right i n)

theorem buildsNode_scalar {w : Wire} {tag : Tag} {text : List Char} {s : Scalar}
    (hsize : 0 < d.size) (hnode : ∀ i, nodeAt i w = .scalar i tag text)
    (hvalue : w.toValue = .scalar s) (htag : tag ∈ [Tag.null, .bool, .int, .text])
    (hnumber : s ≠ .float .nan) (hread : w.IsData → tag.read text = .ok s) : BuildsNode d w := by
  intro hdata known fuel i around hfuel haround
  obtain ⟨fuel, rfl⟩ : ∃ m, fuel = m + 1 := ⟨fuel - 1, by have := one_le_nodeCount w; omega⟩
  rw [hnode, hvalue]
  exact buildsTo_scalar hsize (notMem_of_lt haround) htag (hread hdata) hnumber

theorem buildsNode_list {ws : List Wire} (h : BuildsItems d ws) : BuildsNode d (.list ws) := by
  intro hdata known fuel i around hfuel haround
  obtain ⟨fuel, rfl⟩ : ∃ m, fuel = m + 1 := ⟨fuel - 1, by rw [nodeCount] at hfuel; omega⟩
  exact buildsTo_list (notMem_of_lt haround)
    (h hdata (Nat.le_of_succ_le_succ hfuel) (lt_succ_of_mem_cons haround))

theorem buildsNode_object {es : List (String × Wire)} (hsize : 0 < d.size)
    (h : BuildsFields d es) : BuildsNode d (.object es) := by
  intro hdata known fuel i around hfuel haround
  obtain ⟨hnodup, hdata⟩ := hdata
  obtain ⟨fuel, rfl⟩ : ∃ m, fuel = m + 1 := ⟨fuel - 1, by rw [nodeCount] at hfuel; omega⟩
  have hentries : BuildsEntries (d.build known fuel (i :: around)) (entriesAt (i + 1) es)
      (es.map fun e => (e.1, e.2.toValue)) :=
    h hdata (Nat.le_of_succ_le_succ hfuel) (lt_succ_of_mem_cons haround)
  have hkeys : ((es.map fun e => (e.1, e.2.toValue)).map Prod.fst).Nodup := by
    rwa [List.map_map]
  have hmap := buildsTo_map hsize (notMem_of_lt haround) hentries hkeys
  rw [List.map_map] at hmap
  rw [nodeAt, Wire.toValue, Wire.toEntries_eq_map]
  exact hmap

theorem buildsItems_cons {w : Wire} {ws : List Wire} (hw : BuildsNode d w)
    (hws : BuildsItems d ws) : BuildsItems d (w :: ws) := by
  intro hdata known fuel i around hfuel haround
  rw [itemCount] at hfuel
  exact .cons (hw hdata.1 (by omega) haround)
    (hws hdata.2 (by omega) (lt_add_of_mem haround (nodeCount w)))

theorem buildsFields_cons {k : String} {w : Wire} {es : List (String × Wire)} (hsize : 0 < d.size)
    (hw : BuildsNode d w) (hes : BuildsFields d es) : BuildsFields d ((k, w) :: es) := by
  intro hdata known fuel i around hfuel haround
  rw [entryCount] at hfuel
  obtain ⟨fuel, rfl⟩ : ∃ m, fuel = m + 1 := ⟨fuel - 1, by omega⟩
  have hkey : BuildsTo (d.build known (fuel + 1) around (.scalar i .text k.toList)) (.text k) :=
    buildsTo_scalar hsize (notMem_of_lt haround) (by simp) (read_text k) (by simp)
  exact .cons ⟨⟨i, k.toList, rfl⟩, hkey, hw hdata.1 (by omega) (lt_add_of_mem haround 1)⟩
    (hes hdata.2 (by omega) (lt_add_of_mem (lt_add_of_mem haround 1) (nodeCount w)))

mutual

/-- Every node becomes the value of its wire form. -/
theorem builds_node (hsize : 0 < d.size) : ∀ w, BuildsNode d w
  | .null => buildsNode_scalar hsize (fun _ => rfl) rfl (by simp) (by simp) fun _ => read_null _
  | .bool b => buildsNode_scalar hsize (fun _ => rfl) rfl (by simp) (by simp) fun _ => read_bool b
  | .int _ => buildsNode_scalar hsize (fun _ => rfl) rfl (by simp) (by simp) read_int
  | .text s =>
    buildsNode_scalar hsize (fun _ => rfl) rfl (by simp) (by simp) fun _ => read_text s
  | .list ws => buildsNode_list (builds_items hsize ws)
  | .object es => buildsNode_object hsize (builds_fields hsize es)

theorem builds_items (hsize : 0 < d.size) : ∀ ws, BuildsItems d ws
  | [] => fun _ _ _ _ _ _ _ => .nil
  | w :: ws => buildsItems_cons (builds_node hsize w) (builds_items hsize ws)

theorem builds_fields (hsize : 0 < d.size) : ∀ es, BuildsFields d es
  | [] => fun _ _ _ _ _ _ _ => .nil
  | (_, w) :: es => buildsFields_cons hsize (builds_node hsize w) (builds_fields hsize es)

end

end Wires

/-- The value of a document that is the node of a wire form. -/
theorem value_nodeAt {w : Wire} (h : w.IsData) :
    ({ root := nodeAt 1 w, anchored := [], size := 1 + nodeCount w } : Document).value
      = .ok w.toValue := by
  obtain ⟨d, hd⟩ : ∃ d : Document,
      d = { root := nodeAt 1 w, anchored := [], size := 1 + nodeCount w } := ⟨_, rfl⟩
  have hsize : d.size = 1 + nodeCount w := by rw [hd]
  have hbuilt : BuildsTo (d.build [] d.size [] d.root) w.toValue := by
    have hroot : d.root = nodeAt 1 w := by rw [hd]
    rw [hroot]
    exact builds_node (by omega) w h (by omega) (by simp)
  have hanchored : d.anchored = [] := by rw [hd]
  have hknown :
      d.buildAnchored (d.buildAnchored (d.anchored.map fun n => (n.serial, .hollow n))) = [] := by
    rw [hanchored]
    unfold buildAnchored
    rw [hanchored]
    rfl
  rw [← hd, value, hknown]
  dsimp only
  rw [Step.firstFault?_of_isCalm hbuilt.calm (by simp)]
  exact congrArg Except.ok hbuilt.value

end Document

end Yaml

end ControlPlane
