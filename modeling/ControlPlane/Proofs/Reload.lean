import ControlPlane.Proofs.Reload.Blocks
import ControlPlane.Proofs.Reload.Json

/-!
# Loading what was rendered

A manifest that was read from JSON data is rendered as a document, and loading the document gives
the wire form of the manifest again: the same keys in the same order, and every text, integer and
truth value as it was.  There is one exception.  Whether a key goes without a question mark is
decided by its length, and whether it is found again by the length of what is written of it, so a
key whose characters are written as escapes may be lost.  Then the document is malformed
(`Manifest.load_toYaml`).
-/

namespace ControlPlane

namespace Yaml

/-! ## characters of documents -/

section Ordinary

variable {i column : Nat}

theorem all_isOrdinary_spaces (n : Nat) : (spaces n).all isOrdinary = true :=
  List.all_eq_true.mpr fun _ hx => isOrdinary_of_isAscii (isAscii_of_mem_spaces hx)

theorem all_isOrdinary_newLine (n : Nat) : (newLine n).all isOrdinary = true :=
  all_isOrdinary_spaces n

theorem all_isOrdinary_textScalar (fold : Bool) (cs : List Char) :
    (textScalar fold i column cs).all isOrdinary = true :=
  List.all_eq_true.mpr fun _ hx => isOrdinary_of_mem_textScalar hx

theorem all_isOrdinary_of_isPlainText {cs : List Char} (h : isPlainText cs = true) :
    cs.all isOrdinary = true := by
  simp only [isPlainText, Bool.and_eq_true] at h
  exact h.1.1.1.2

theorem all_isOrdinary_joinRows {rows : List (List Char)}
    (h : ∀ row ∈ rows, row.all isOrdinary = true) : (joinRows i rows).all isOrdinary = true := by
  induction rows with
  | nil => rfl
  | cons row rows ih =>
      have hrow := h row List.mem_cons_self
      have hrows := ih fun row' hrow' => h row' (List.mem_cons_of_mem row hrow')
      cases rows with
      | nil => simpa [joinRows] using hrow
      | cons row' rows =>
          rw [joinRows_cons_cons, List.all_append, List.all_append, hrow, all_isOrdinary_newLine,
            hrows]
          rfl

theorem all_isOrdinary_keyRow {key : List Char} {simple : Nat → List Char} {complex : List Char}
    (hsimple : ∀ column, (simple column).all isOrdinary = true)
    (hcomplex : complex.all isOrdinary = true) :
    (keyRow i key simple complex).all isOrdinary = true := by
  have hmarks : isOrdinary ':' = true ∧ isOrdinary '?' = true ∧ isOrdinary ' ' = true := by decide
  unfold keyRow
  split
  · simp [all_isOrdinary_textScalar, hsimple, hmarks]
  · simp [all_isOrdinary_textScalar, all_isOrdinary_newLine, hcomplex, hmarks]

mutual

/-- What is printed of a node is made of printable ASCII and line feeds. -/
theorem all_isOrdinary_behind : ∀ (w : Wire) (i : Nat),
    (behindDash i w).all isOrdinary = true ∧
      ∀ column, (behindKey i column w).all isOrdinary = true
  | .null, _ => ⟨rfl, fun _ => rfl⟩
  | .bool true, _ => ⟨rfl, fun _ => rfl⟩
  | .bool false, _ => ⟨rfl, fun _ => rfl⟩
  | .int n, _ =>
    have hn := all_isOrdinary_of_isPlainText (isPlainText_int n)
    ⟨hn, fun _ => hn⟩
  | .text s, i =>
    ⟨all_isOrdinary_textScalar true s.toList, fun _ => all_isOrdinary_textScalar true s.toList⟩
  | .list [], _ => ⟨rfl, fun _ => rfl⟩
  | .list (w :: ws), i => by
    have hrows (j : Nat) :=
      all_isOrdinary_joinRows (i := j) (all_isOrdinary_itemRows (w :: ws) j)
    refine ⟨hrows (i + 2), fun _ => ?_⟩
    rw [behindKey, List.all_append, all_isOrdinary_newLine, hrows i]
    rfl
  | .object [], _ => ⟨rfl, fun _ => rfl⟩
  | .object (e :: es), i => by
    have hrows (j : Nat) :=
      all_isOrdinary_joinRows (i := j) (all_isOrdinary_entryRows (e :: es) j)
    refine ⟨hrows (i + 2), fun _ => ?_⟩
    rw [behindKey, List.all_append, all_isOrdinary_newLine, hrows (i + 2)]
    rfl

theorem all_isOrdinary_itemRows : ∀ (ws : List Wire) (i : Nat),
    ∀ row ∈ itemRows i ws, row.all isOrdinary = true
  | [], _ => fun _ h => by cases h
  | w :: ws, i => List.forall_mem_cons.mpr
      ⟨(all_isOrdinary_behind w i).1, all_isOrdinary_itemRows ws i⟩

theorem all_isOrdinary_entryRows : ∀ (es : List (String × Wire)) (i : Nat),
    ∀ row ∈ entryRows i es, row.all isOrdinary = true
  | [], _ => fun _ h => by cases h
  | (_, w) :: es, i => List.forall_mem_cons.mpr
      ⟨all_isOrdinary_keyRow (all_isOrdinary_behind w i).2 (all_isOrdinary_behind w i).1,
        all_isOrdinary_entryRows es i⟩

end

end Ordinary

/-! ## documents -/

/-- An object that is printed is loaded again, provided that all keys fit. -/
theorem load_printDocument {e : String × Wire} {es : List (String × Wire)}
    (hdata : (Wire.object (e :: es)).IsData)
    (hdepth : 2 * (Wire.object (e :: es)).depth < lineWidth) :
    load (printDocument (.object (e :: es)))
      = if KeysFit (Wire.object (e :: es)).keys then .ok (Wire.object (e :: es)).toValue
        else .error .malformed := by
  obtain ⟨text, htext⟩ : ∃ text, text = printNode (.object (e :: es)) ++ ['\n'] := ⟨_, rfl⟩
  have hallowed : text.all isAllowed = true := by
    have hrows := all_isOrdinary_joinRows (i := 0) (all_isOrdinary_entryRows (e :: es) 0)
    refine List.all_eq_true.mpr fun x hx => isAllowed_of_isOrdinary ?_
    rw [htext] at hx
    obtain hx | hx := List.mem_append.mp hx
    · exact List.all_eq_true.mp hrows x hx
    · rw [List.mem_singleton.mp hx]
      decide
  have hentries : 2 * Wire.depthOfEntries (e :: es) + 2 < lineWidth := hdepth
  have htokens := tokens_object hentries
  rw [← htext] at htokens
  rw [load, printDocument, ← htext, String.toList_ofList, if_pos hallowed]
  split
  · next hfits =>
    rw [document?_object (htokens.1 hfits)]
    exact Document.value_nodeAt hdata
  · next hfits =>
    rw [document?_of_isBroken (htokens.2 hfits)]
    rfl

end Yaml

namespace Manifest

theorem exists_toWire (m : Manifest) : ∃ e es, m.toWire = .object (e :: es) := by
  obtain ⟨apiVersion, kind, metadata, spec⟩ := m
  exact ⟨_, _, rfl⟩

/-- A manifest that was read from JSON data and rendered is loaded again as its wire form, unless a
key is written at too great a length: then the text is malformed. -/
theorem load_toYaml {v : Value} {m : Manifest} (hv : v.IsJson) (h : shape.read v = .ok m) :
    Yaml.load m.toYaml
      = if Yaml.KeysFit m.toWire.keys then .ok m.toWire.toValue else .error .malformed := by
  have hdata := isData_toWire hv h
  have hdepth := depth_toWire h
  rw [toYaml]
  obtain ⟨e, es, hwire⟩ := m.exists_toWire
  rw [hwire] at hdata hdepth ⊢
  have hlines : 2 * (Wire.object (e :: es)).depth < Yaml.lineWidth :=
    Nat.lt_of_le_of_lt (Nat.mul_le_mul_left 2 hdepth) (by decide)
  exact Yaml.load_printDocument hdata hlines

/-- A key of characters that are each written as ten. -/
def wideKey (n : Nat) : String := String.ofList (List.replicate n (Char.ofNat 0x1F600))

/-- A manifest with one label. -/
def labelled (key : String) : Manifest where
  metadata := { labels := some [(key, "x")] }

/-- Only the key of the label matters. -/
theorem keysFit_labelled {key : String} :
    Yaml.KeysFit (labelled key).toWire.keys ↔ Yaml.KeyFits key := by
  have hkeys : (labelled key).toWire.keys = ["apiVersion", "kind", "metadata", "labels"] ++
      key :: ["spec", "template", "metadata", "spec", "containers", "volumeClaimTemplates"] := rfl
  have hshort : (∀ k ∈ ["apiVersion", "kind", "metadata", "labels"], k.toList.length ≤ 102) ∧
      ∀ k ∈ ["spec", "template", "metadata", "spec", "containers", "volumeClaimTemplates"],
        k.toList.length ≤ 102 := by decide +kernel
  rw [hkeys, Yaml.keysFit_append]
  have hfront : Yaml.KeysFit ["apiVersion", "kind", "metadata", "labels"] :=
    fun k hk => Yaml.keyFits_of_length (.inl (hshort.1 k hk))
  have hback : Yaml.KeysFit
      ["spec", "template", "metadata", "spec", "containers", "volumeClaimTemplates"] :=
    fun k hk => Yaml.keyFits_of_length (.inl (hshort.2 k hk))
  exact ⟨fun h => (Yaml.keysFit_cons.mp h.2).1,
    fun h => ⟨hfront, Yaml.keysFit_cons.mpr ⟨h, hback⟩⟩⟩

theorem keyFits_wideKey : Yaml.KeyFits (wideKey 102) ∧ ¬ Yaml.KeyFits (wideKey 103) := by
  have hlist (n : Nat) : (wideKey n).toList = List.replicate n (Char.ofNat 0x1F600) :=
    String.toList_ofList
  have hwidth : Yaml.isOrdinary (Char.ofNat 0x1F600) = false ∧
      (Yaml.escape (Char.ofNat 0x1F600)).length = 10 := by decide +kernel
  have hsimple : Yaml.isSimpleKey (List.replicate 103 (Char.ofNat 0x1F600)) = true := by
    decide +kernel
  constructor
  · exact Yaml.keyFits_of_length (.inl (by rw [hlist, List.length_replicate]))
  · intro hfits
    rw [Yaml.KeyFits, hlist] at hfits
    have hlength := hfits hsimple
    rw [Yaml.length_textScalar_replicate hwidth.1 (by decide), hwidth.2] at hlength
    exact absurd hlength (by decide)

theorem load_toYaml_labelled :
    (shape.read (labelled (wideKey 102)).toWire.toValue = .ok (labelled (wideKey 102)) ∧
      Yaml.load (labelled (wideKey 102)).toYaml = .ok (labelled (wideKey 102)).toWire.toValue) ∧
    (shape.read (labelled (wideKey 103)).toWire.toValue = .ok (labelled (wideKey 103)) ∧
      Yaml.load (labelled (wideKey 103)).toYaml = .error .malformed) := by
  have hread (key : String) : shape.read (labelled key).toWire.toValue = .ok (labelled key) :=
    shape.read_write regular_shape.1 rfl
  have hdata : (labelled (wideKey 102)).toWire.IsData ∧ (labelled (wideKey 103)).toWire.IsData := by
    decide +kernel
  refine ⟨⟨hread (wideKey 102), ?_⟩, hread (wideKey 103), ?_⟩
  · rw [load_toYaml (Wire.IsData.isJson_toValue _ hdata.1) (hread (wideKey 102)),
      if_pos (keysFit_labelled.mpr keyFits_wideKey.1)]
  · rw [load_toYaml (Wire.IsData.isJson_toValue _ hdata.2) (hread (wideKey 103)),
      if_neg fun hfits => keyFits_wideKey.2 (keysFit_labelled.mp hfits)]

end Manifest

end ControlPlane
