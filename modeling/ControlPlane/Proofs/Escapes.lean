import ControlPlane.Proofs.Mistyped
import ControlPlane.Proofs.Obtained

/-!
# Failures that are not the library's own

A configuration goes through four layers: bytes become a text, variables are put in, the text is
read as YAML, the values are read as settings.  Each layer fails in ways of its own.

* Values that do not fit are always told as problems: no reading without quantities meets a fault
  of arithmetic (`Shape.faultless_read`), and settings have no quantities yet.
* So whether a failure is the library's own is decided before the values are looked at, and
  overrides have no part in it: bytes that are no text leave the library as they are, and so does
  every fault of a YAML text but one of its form (`Config.escapes_content_iff`).
* Such a fault is that of a scalar which is not written like its type (`Config.Mistyped.mistypes`).
-/

namespace ControlPlane

/-! ## readings without faults -/

namespace Reading

variable {α β : Type}

/-- A reading that succeeds or finds problems. -/
def Faultless (x : Reading α) : Prop := ∀ f, x ≠ .error (.fault f)

theorem faultless_ok (a : α) : Faultless (.ok a) := by
  intro f h
  cases h

theorem faultless_refuse (kind : ProblemKind) : Faultless (refuse kind : Reading α) := by
  intro f h
  cases h

theorem Faultless.map {x : Reading α} (hx : x.Faultless) (g : α → β) : Faultless (x.map g) := by
  cases x with
  | ok a => exact faultless_ok (g a)
  | error r =>
      intro f h
      exact hx f (by simpa [Except.map] using h)

theorem Faultless.under {x : Reading α} (hx : x.Faultless) (place : Place) :
    (x.under place).Faultless := by
  cases x with
  | ok a => exact faultless_ok a
  | error r => cases r with
    | problems ps =>
        intro f h
        cases h
    | fault f => exact absurd rfl (hx f)

theorem Faultless.both {x : Reading α} {y : Reading β} (hx : x.Faultless) (hy : y.Faultless) :
    (both x y).Faultless := by
  intro f h
  cases x with
  | ok a => cases y with
    | ok b => cases h
    | error r => cases r with
      | problems qs => cases h
      | fault g => exact hy g rfl
  | error r => cases r with
    | problems ps => cases y with
      | ok b => cases h
      | error r => cases r with
        | problems qs => cases h
        | fault g => exact hy g rfl
    | fault g => exact hx g rfl

theorem faultless_all {xs : List (Reading α)} (h : ∀ x ∈ xs, x.Faultless) : (all xs).Faultless := by
  induction xs with
  | nil => exact faultless_ok []
  | cons x xs ih =>
      have hrest := ih fun y hy => h y (List.mem_cons_of_mem _ hy)
      exact ((h x List.mem_cons_self).both hrest).map _

theorem faultless_of_mem_allFrom {i : Nat} {xs : List (Reading α)} (h : ∀ x ∈ xs, x.Faultless) :
    ∀ x ∈ allFrom i xs, x.Faultless := by
  induction xs generalizing i with
  | nil => simp [allFrom]
  | cons x xs ih =>
      intro y hy
      rcases List.mem_cons.mp hy with rfl | hy
      · exact (h x List.mem_cons_self).under _
      · exact ih (fun z hz => h z (List.mem_cons_of_mem _ hz)) y hy

end Reading

open Reading

/-! ## leaves -/

theorem faultless_readText (least : Nat) (v : Value) : (readText least v).Faultless := by
  have hsized (s : String) : (readText.sized least s).Faultless := by
    unfold readText.sized
    split
    · exact faultless_refuse _
    · exact faultless_ok s
  unfold readText
  split
  · exact hsized _
  · split
    · exact hsized _
    · exact faultless_refuse _
  · exact faultless_refuse _

theorem faultless_readInteger (bounds : Bounds) (v : Value) : (readInteger bounds v).Faultless := by
  unfold readInteger
  split
  · exact faultless_refuse _
  · split
    · exact faultless_refuse _
    · exact faultless_ok _

theorem faultless_boolOfInt (i : Int) : (boolOfInt i).Faultless := by
  unfold boolOfInt
  split
  · exact faultless_ok true
  · split
    · exact faultless_ok false
    · exact faultless_refuse _

theorem faultless_boolOfText (s : String) : (boolOfText s).Faultless := by
  simp only [boolOfText]
  split
  · exact faultless_ok true
  · split
    · exact faultless_ok false
    · exact faultless_refuse _

theorem faultless_readBool (v : Value) : (readBool v).Faultless := by
  unfold readBool
  split
  · exact faultless_ok _
  · exact faultless_boolOfText _
  · split
    · exact faultless_boolOfText _
    · exact faultless_refuse _
  · split
    · exact faultless_boolOfInt _
    · exact faultless_refuse _
  · split
    · exact faultless_boolOfInt _
    · exact faultless_refuse _
  · exact faultless_refuse _

theorem faultless_readChoice {α : Type} (options : Choice α) (v : Value) :
    (readChoice options v).Faultless := by
  simp only [readChoice]
  split
  · exact faultless_ok _
  · exact faultless_refuse _

theorem faultless_readPort (v : Value) : (readPort v).Faultless := by
  have htext := faultless_readText 0 v
  unfold readPort
  split
  · exact faultless_ok _
  · cases integerOf v with
    | ok i => exact faultless_ok _
    | error kind => cases hr : readText 0 v with
      | ok s => exact faultless_ok _
      | error r => cases r with
        | problems ps =>
            intro f h
            cases h
        | fault f => exact absurd hr (htext f)

/-! ## shapes without quantities -/

mutual

/-- Whether there is no quantity in the shape. -/
def Shape.lacksQuantities : {α : Type} → Shape α → Bool
  | _, .text _ => true
  | _, .integer _ => true
  | _, .boolean => true
  | _, .choice _ => true
  | _, .quantity => false
  | _, .port => true
  | _, .contribution proper => proper.lacksQuantities
  | _, .list item => item.lacksQuantities
  | _, .tuple item => item.lacksQuantities
  | _, .map item => item.lacksQuantities
  | _, .record _ fields _ => fields.lackQuantities

/-- Whether there is no quantity in the shapes of the fields. -/
def Fields.lackQuantities : {ρ : Type} → Fields ρ → Bool
  | _, .nil => true
  | _, .required _ shape rest => shape.lacksQuantities && rest.lackQuantities
  | _, .optional _ shape rest => shape.lacksQuantities && rest.lackQuantities
  | _, .defaulted _ shape _ rest => shape.lacksQuantities && rest.lackQuantities

end

section Parts

variable {α : Type} {item : Value → Reading α}

theorem faultless_readItems (otherwise : ProblemKind) (v : Value) (h : ∀ w, (item w).Faultless) :
    (readItems otherwise item v).Faultless := by
  unfold readItems
  split
  · apply faultless_all
    apply faultless_of_mem_allFrom
    intro x hx
    obtain ⟨w, -, rfl⟩ := List.mem_map.mp hx
    exact h w
  · exact faultless_refuse _

theorem faultless_readEntries (v : Value) (h : ∀ w, (item w).Faultless) :
    (readEntries item v).Faultless := by
  unfold readEntries
  split
  · apply faultless_all
    intro x hx
    obtain ⟨e, -, rfl⟩ := List.mem_map.mp hx
    exact (((faultless_readText 0 _).under _).under _).both ((h e.2).under _)
  · exact faultless_refuse _

end Parts

theorem faultless_readKeys (unknownKeys : UnknownKeys) (fields : List FieldKeys)
    (entries : List (Scalar × Value)) : (readKeys unknownKeys fields entries).Faultless := by
  unfold readKeys
  split
  · exact faultless_ok ()
  · split
    · exact faultless_ok ()
    · intro f h
      cases h

mutual

/-- Without quantities nothing but problems can be found. -/
theorem Shape.faultless_read : {α : Type} → (s : Shape α) → s.lacksQuantities = true →
    (v : Value) → (s.read v).Faultless
  | _, .text least, _, v => faultless_readText least v
  | _, .integer bounds, _, v => faultless_readInteger bounds v
  | _, .boolean, _, v => faultless_readBool v
  | _, .choice options, _, v => faultless_readChoice options v
  | _, .port, _, v => faultless_readPort v
  | _, .contribution proper, h, v => (proper.faultless_read h v).map _
  | _, .list item, h, v => faultless_readItems _ v fun w => item.faultless_read h w
  | _, .tuple item, h, v => faultless_readItems _ v fun w => item.faultless_read h w
  | _, .map item, h, v => faultless_readEntries v fun w => item.faultless_read h w
  | _, .record style fields packing, h, v => by
      unfold Shape.read
      cases v with
      | map entries =>
          exact ((fields.faultless_read h entries).both (faultless_readKeys _ _ _)).map _
      | _ => exact faultless_refuse _

/-- Nor can it in the fields of a record. -/
theorem Fields.faultless_read : {ρ : Type} → (fs : Fields ρ) → fs.lackQuantities = true →
    (entries : List (Scalar × Value)) → (fs.read entries).Faultless
  | _, .nil, _, _ => faultless_ok ()
  | _, .required keys shape rest, h, entries => by
      obtain ⟨hs, hr⟩ := Bool.and_eq_true_iff.mp h
      refine Faultless.both ?_ (rest.faultless_read hr entries)
      split
      · exact (shape.faultless_read hs _).under _
      · intro f hf
        cases hf
  | _, .optional keys shape rest, h, entries => by
      obtain ⟨hs, hr⟩ := Bool.and_eq_true_iff.mp h
      refine Faultless.both ?_ (rest.faultless_read hr entries)
      split
      · split
        · exact faultless_ok none
        · exact ((shape.faultless_read hs _).map _).under _
      · exact faultless_ok none
  | _, .defaulted keys shape value rest, h, entries => by
      obtain ⟨hs, hr⟩ := Bool.and_eq_true_iff.mp h
      refine Faultless.both ?_ (rest.faultless_read hr entries)
      split
      · exact (shape.faultless_read hs _).under _
      · exact faultless_ok value

end

theorem Settings.faultless_read (v : Value) : (read v).Faultless := by
  have hshape := shape.faultless_read (by decide +kernel) v
  unfold read
  split
  · unfold check
    split
    · exact faultless_refuse _
    · exact faultless_ok _
  · next r hr =>
      rw [hr] at hshape
      exact hshape

/-! ## failures -/

/-- The fault of a text that is no YAML. -/
def Yaml.fault? (text : String) : Option Fault :=
  match load text with
  | .ok _ => none
  | .error f => some f

namespace ConfigFailure

theorem ofYaml_of_ne {f : Yaml.Fault} (h : f ≠ .malformed) : ofYaml f = .untyped f := by
  cases f with
  | malformed => exact absurd rfl h
  | _ => rfl

end ConfigFailure

namespace Config

/-- A failure leaves the library as it is. -/
def Escapes (outcome : Except ConfigFailure Settings) (e : ConfigFailure) : Prop :=
  outcome = .error e ∧ e.isOwn = false

/-- A text with its variables put in is no YAML, but for another reason than its form. -/
def Mistyped (vars : Variables) (text : String) (f : Yaml.Fault) : Prop :=
  ∃ filled, interpolate text vars = .ok filled ∧ Yaml.fault? filled = some f ∧ f ≠ .malformed

/-- The reason is that a scalar is not written like its type. -/
theorem Mistyped.mistypes {vars : Variables} {text : String} {f : Yaml.Fault}
    (h : Mistyped vars text f) :
    ∃ filled, interpolate text vars = .ok filled ∧ Yaml.Mistypes filled f := by
  obtain ⟨filled, hfilled, hfault, hne⟩ := h
  unfold Yaml.fault? at hfault
  split at hfault
  · cases hfault
  · next g hload =>
      cases hfault
      rcases Yaml.fault_of_load hload with hf | hf
      · exact absurd hf hne
      · exact ⟨filled, hfilled, hf⟩

variable (order : SetOrder) (vars : Variables) (overrides : List (Scalar × Value))

/-- Nothing escapes from values. -/
theorem not_escapes_ofEntries (entries : List (Scalar × Value)) (e : ConfigFailure) :
    ¬ Escapes (ofEntries entries overrides) e := by
  have hread := Settings.faultless_read (.map (override overrides entries))
  rintro ⟨h, hown⟩
  unfold ofEntries at h
  cases hr : Settings.read (.map (override overrides entries)) with
  | ok s =>
      rw [hr] at h
      cases h
  | error r => cases r with
    | problems ps =>
        rw [hr] at h
        cases h
        cases hown
    | fault f => exact hread f hr

theorem fault?_of_entriesOf {text : String} {e : ConfigFailure} (h : entriesOf text = .error e)
    (hown : e.isOwn = false) :
    ∃ f, Yaml.fault? text = some f ∧ f ≠ .malformed ∧ e = .untyped f := by
  unfold entriesOf at h
  split at h
  · next f hload =>
      cases h
      have hne : f ≠ .malformed := by
        intro heq
        rw [heq] at hown
        cases hown
      exact ⟨f, by simp [Yaml.fault?, hload], hne, ConfigFailure.ofYaml_of_ne hne⟩
  · cases h
  · cases h
  · cases h
    cases hown

theorem entriesOf_of_fault? {text : String} {f : Yaml.Fault} (h : Yaml.fault? text = some f)
    (hne : f ≠ .malformed) : entriesOf text = .error (.untyped f) := by
  unfold Yaml.fault? at h
  unfold entriesOf
  cases hload : Yaml.load text with
  | ok v => simp [hload] at h
  | error g =>
      simp only [hload, Option.some.injEq] at h
      simp only [h, ConfigFailure.ofYaml_of_ne hne]

/-- What escapes from a mapping that is written is what is wrong with the writing, in whatever order
its sets are gone through. -/
theorem escapes_ofWritten_iff {written : Except ConfigFailure (List (Scalar × Value))}
    {e : ConfigFailure} :
    Escapes (ofWritten order written overrides) e ↔ written = .error e ∧ e.isOwn = false := by
  unfold ofWritten
  cases written with
  | error e' => simp [Escapes]
  | ok entries => simpa using not_escapes_ofEntries overrides (order.entries entries) e

/-- A text from which something escapes holds a value that is not written like its type. -/
theorem written_eq_error_iff (text : String) (e : ConfigFailure) :
    written vars text = .error e ∧ e.isOwn = false ↔ ∃ f, Mistyped vars text f ∧ e = .untyped f := by
  unfold written
  cases hfilled : interpolate text vars with
  | error why =>
      constructor
      · rintro ⟨h, hown⟩
        cases h
        cases hown
      · rintro ⟨f, ⟨filled, h, -⟩, -⟩
        rw [hfilled] at h
        cases h
  | ok filled =>
      dsimp only
      constructor
      · rintro ⟨h, hown⟩
        obtain ⟨f, hf, hne, he⟩ := fault?_of_entriesOf h hown
        exact ⟨f, ⟨filled, hfilled, hf, hne⟩, he⟩
      · rintro ⟨f, ⟨filled', h, hf, hne⟩, rfl⟩
        rw [hfilled] at h
        cases h
        exact ⟨entriesOf_of_fault? hf hne, rfl⟩

/-- What escapes from a text is the fault of a value that is not written like its type. -/
theorem escapes_ofText_iff (text : String) (e : ConfigFailure) :
    Escapes (ofText order vars text overrides) e ↔ ∃ f, Mistyped vars text f ∧ e = .untyped f := by
  rw [ofText, escapes_ofWritten_iff, written_eq_error_iff]

/-- Of the refusals to open a file only that of a path that names nothing escapes. -/
theorem escapes_refusal_iff (error : FileError) (e : ConfigFailure) :
    Escapes (ofFile order vars (.error error) overrides) e ↔
      error.fault = .unnameable ∧ e = .unreachable error := by
  rw [ofFile, escapes_ofWritten_iff]
  simp only [writtenIn, ConfigFailure.ofFile]
  split
  · next hfault =>
      constructor
      · rintro ⟨h, -⟩
        cases h
        exact ⟨hfault, rfl⟩
      · rintro ⟨-, rfl⟩
        exact ⟨rfl, rfl⟩
  · next hfault =>
      constructor
      · rintro ⟨h, hown⟩
        cases h
        cases hown
      · rintro ⟨h, -⟩
        exact absurd h hfault

/-- From bytes escapes that they are no text, or what escapes from their text. -/
theorem escapes_content_iff (content : List UInt8) (e : ConfigFailure) :
    Escapes (ofFile order vars (.ok content) overrides) e ↔
      (Text.decodeUtf8? content = none ∧ e = .undecodable) ∨
      ∃ cs f, Text.decodeUtf8? content = some cs ∧
        Mistyped vars (String.ofList (Text.uniformLines cs)) f ∧ e = .untyped f := by
  rw [ofFile, escapes_ofWritten_iff]
  simp only [writtenIn, textOf]
  cases hcontent : Text.decodeUtf8? content with
  | none =>
      constructor
      · rintro ⟨h, -⟩
        cases h
        exact .inl ⟨rfl, rfl⟩
      · rintro (⟨-, rfl⟩ | ⟨cs, f, h, -⟩)
        · exact ⟨rfl, rfl⟩
        · cases h
  | some cs =>
      dsimp only
      rw [written_eq_error_iff]
      constructor
      · rintro ⟨f, hf, he⟩
        exact .inr ⟨cs, f, rfl, hf, he⟩
      · rintro (⟨h, -⟩ | ⟨cs', f, h, hf, he⟩)
        · cases h
        · cases h
          exact ⟨f, hf, he⟩

/-! ## main results -/

/-- Reading a configuration gives valid settings or a failure.  The failure is the library's own
unless the path names nothing, the bytes are no text, or a scalar is not written like its type. -/
theorem escapes_iff :
    (∀ text s, ofText order vars text overrides = .ok s → s.Valid) ∧
    (∀ file s, ofFile order vars file overrides = .ok s → s.Valid) ∧
    (∀ text f, Mistyped vars text f →
      ∃ filled, interpolate text vars = .ok filled ∧ Yaml.Mistypes filled f) ∧
    (∀ text e, Escapes (ofText order vars text overrides) e ↔
      ∃ f, Mistyped vars text f ∧ e = .untyped f) ∧
    (∀ file e, Escapes (ofFile order vars file overrides) e ↔
      (∃ error, file = .error error ∧ error.fault = .unnameable ∧ e = .unreachable error) ∨
      (∃ content, file = .ok content ∧ Text.decodeUtf8? content = none ∧ e = .undecodable) ∨
      ∃ content cs f, file = .ok content ∧ Text.decodeUtf8? content = some cs ∧
        Mistyped vars (String.ofList (Text.uniformLines cs)) f ∧ e = .untyped f) := by
  refine ⟨?_, ?_, fun _ _ h => h.mistypes, escapes_ofText_iff order vars overrides, ?_⟩
  · intro text s h
    exact s.obtained_iff_valid.mp (.text order vars text overrides h)
  · intro file s h
    exact s.obtained_iff_valid.mp (.file order vars file overrides h)
  · intro file e
    cases file with
    | error error =>
        rw [escapes_refusal_iff]
        simp
    | ok content =>
        rw [escapes_content_iff]
        simp

/-- A date that the calendar does not have, and a byte that no text has. -/
theorem escapes_impossible_date :
    Escapes (ofText .asWritten [] "storage_class_name: 2024-02-30" [])
      (.untyped .impossibleDate) ∧
    Escapes (ofFile .asWritten [] (.ok [0xff]) []) .undecodable := by
  obtain ⟨-, -, -, htext, hfile⟩ := escapes_iff .asWritten [] []
  constructor
  · refine (htext _ _).mpr ⟨.impossibleDate, ⟨_, rfl, ?_, by decide⟩, rfl⟩
    decide +kernel
  · exact (hfile _ _).mpr (.inr (.inl ⟨_, rfl, by decide +kernel, rfl⟩))

end Config

end ControlPlane
