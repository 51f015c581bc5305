import ControlPlane.Config
import ControlPlane.Proofs.Congruence
import ControlPlane.Proofs.Escapes
import Mathlib.Data.List.Perm.Basic

/-!
# Overrides

Overrides are laid over the values of a configuration.  What a configuration has under a key that is
overridden shows nowhere in the outcome (`Config.ofEntries_hides`), for it could only show in

* the values of the merged mapping, which are the overriding ones there (`Value.field?_putAll`);
* the order of its keys, as an overridden key keeps its place.  Both merged mappings have the same
  keys (`Entries.perm_keys`), and those that are no texts stand in the same order
  (`Entries.otherKeys_putAll`), so no problems but those of unknown keys change places.
-/

namespace ControlPlane

/-! ## values of a merged mapping -/

namespace Value

theorem field?_put (name : String) (k : Scalar) (v : Value) (m : List (Scalar × Value)) :
    field? name (Entries.put Scalar.sameKey k v m) =
      if k = .text name then some v else field? name m := by
  unfold field?
  induction m with
  | nil => simp [Entries.put, Entries.get?]
  | cons e m ih =>
      obtain ⟨j, w⟩ := e
      by_cases hk : k = .text name
      · subst hk
        by_cases hj : j = .text name <;>
          simp_all [Entries.put, Entries.get?, Scalar.sameKey_text]
      · by_cases hj : j = .text name
        · subst hj
          simp [Entries.put, Entries.get?, Scalar.text_sameKey, hk, Ne.symm hk]
        · by_cases hsame : j.sameKey k = true <;> simp_all [Entries.put, Entries.get?]

/-- The last of the new entries counts, and where there is none the old one. -/
theorem field?_putAll (name : String) (new m : List (Scalar × Value)) :
    field? name (Entries.putAll Scalar.sameKey new m) =
      (field? name new.reverse).or (field? name m) := by
  induction new generalizing m with
  | nil => rfl
  | cons e new ih =>
      rw [Entries.putAll_cons, ih, field?_put, field?, field?, field?, List.reverse_cons,
        Entries.get?_append, Option.or_assoc]
      by_cases h : e.1 = .text name <;> simp [Entries.get?, h]

end Value

/-! ## keys of a merged mapping -/

namespace Entries

variable {α : Type} {m n : Entries Scalar α}

/-- The keys of a mapping that are texts. -/
def textKeys (m : Entries Scalar α) : List Scalar := (m.map Prod.fst).filter Scalar.isText

/-- The keys of a mapping that are no texts. -/
def otherKeys (m : Entries Scalar α) : List Scalar := (m.map Prod.fst).filter fun k => !k.isText

/-- A text is set in its place if it is there, so it is not there twice. -/
theorem nodup_textKeys_put (k : Scalar) (v : α) (h : (textKeys m).Nodup) :
    (textKeys (put Scalar.sameKey k v m)).Nodup := by
  unfold textKeys
  rw [keys_put]
  split
  · exact h
  · next hnew =>
      rw [List.filter_append]
      refine List.nodup_append.mpr ⟨h, (List.nodup_cons.mpr ⟨List.not_mem_nil, .nil⟩).filter _, ?_⟩
      intro j hj k' hk heq
      subst heq
      obtain ⟨hk, htext⟩ := List.mem_filter.mp hk
      obtain rfl := List.mem_singleton.mp hk
      refine hnew (List.any_eq_true.mpr ⟨j, (List.mem_filter.mp hj).1, ?_⟩)
      cases j with
      | text name => simp [Scalar.sameKey_text]
      | _ => cases htext

theorem nodup_textKeys_putAll (new : List (Scalar × α)) (h : (textKeys m).Nodup) :
    (textKeys (putAll Scalar.sameKey new m)).Nodup := by
  induction new generalizing m with
  | nil => exact h
  | cons e new ih => exact ih (nodup_textKeys_put e.1 e.2 h)

/-- Whether another key is added depends on the other keys alone. -/
theorem otherKeys_put (k : Scalar) (v : α) (m : Entries Scalar α) :
    otherKeys (put Scalar.sameKey k v m) =
      if k.isText || (otherKeys m).any (Scalar.sameKey · k) then otherKeys m
      else otherKeys m ++ [k] := by
  unfold otherKeys
  rw [keys_put]
  cases hk : k.isText with
  | true => split <;> simp [List.filter_append, hk]
  | false =>
      -- a key that is no text is not found among texts
      have hsame : ((m.map Prod.fst).filter fun j => !j.isText).any (Scalar.sameKey · k) =
          (m.map Prod.fst).any (Scalar.sameKey · k) := by
        rw [List.any_filter]
        congr 1
        funext j
        cases j with
        | text name =>
            have hne : Scalar.text name ≠ k := by
              rintro rfl
              cases hk
            simp [Scalar.text_sameKey, hne]
        | _ => rfl
      rw [hsame, Bool.false_or]
      split <;> simp [List.filter_append, hk]

theorem otherKeys_putAll (new : List (Scalar × α)) (h : otherKeys m = otherKeys n) :
    otherKeys (putAll Scalar.sameKey new m) = otherKeys (putAll Scalar.sameKey new n) := by
  induction new generalizing m n with
  | nil => exact h
  | cons e new ih =>
      apply ih
      rw [otherKeys_put, otherKeys_put, h]

end Entries

/-- Mappings with the same values under texts have the same keys, if their other keys are the
same. -/
theorem Entries.perm_keys {m n : List (Scalar × Value)} (hm : (textKeys m).Nodup)
    (hn : (textKeys n).Nodup) (hother : otherKeys m = otherKeys n)
    (h : ∀ name, Value.field? name m = Value.field? name n) :
    (m.map Prod.fst).Perm (n.map Prod.fst) := by
  have htext : (textKeys m).Perm (textKeys n) := by
    refine (List.perm_ext_iff_of_nodup hm hn).mpr fun k => ?_
    cases k with
    | text name =>
        have hfound (m : List (Scalar × Value)) :
            .text name ∈ textKeys m ↔ Value.field? name m ≠ none := by
          rw [Value.field?, Ne, get?_eq_none_iff, not_not, textKeys, List.mem_filter]
          exact and_iff_left rfl
        rw [hfound, hfound, h]
    | _ => simp [textKeys, Scalar.isText]
  have hsplit (m : List (Scalar × Value)) : (textKeys m ++ otherKeys m).Perm (m.map Prod.fst) :=
    List.filter_append_perm _ _
  refine (hsplit m).symm.trans ?_
  rw [hother]
  exact (htext.append_right _).trans (hsplit n)

/-! ## problems of keys -/

/-- Problems of the keys of one mapping in two orders, in which only unknown keys change places. -/
structure Problem.Reordered (ps qs : List Problem) : Prop where
  keys : ∀ p ∈ ps, (∃ place, p.location = [place]) ∧ (p.kind = .unknownKey ∨ p.kind = .keyNotText)
  perm : ps.Perm qs
  others : (ps.filter fun p => p.kind ≠ .unknownKey) = qs.filter fun p => p.kind ≠ .unknownKey

theorem Problem.Reordered.eq_nil_iff {ps qs : List Problem} (h : Reordered ps qs) :
    ps = [] ↔ qs = [] := by
  rw [← List.length_eq_zero_iff, h.perm.length_eq, List.length_eq_zero_iff]

/-- What is wrong with the keys of a record. -/
def keyProblems (fields : List FieldKeys) (es : List (Scalar × Value)) : List Problem :=
  (es.map Prod.fst).filterMap (keyProblem? fields es)

theorem readKeys_refused (fields : List FieldKeys) (es : List (Scalar × Value)) :
    readKeys .refused fields es =
      if keyProblems fields es = [] then .ok () else .error (.problems (keyProblems fields es)) := by
  rw [keyProblems, List.filterMap_map]
  unfold readKeys
  dsimp only [Function.comp_def]
  split
  · next h => simp [h]
  · next h => rw [if_neg h]

section Keys

variable {fields : List FieldKeys} {m n : List (Scalar × Value)}

/-- A key is wrong or not for what there is under texts. -/
theorem keyProblem?_congr (h : ∀ name, Value.field? name m = Value.field? name n) :
    keyProblem? fields m = keyProblem? fields n := by
  have hfind (keys : FieldKeys) : keys.find? m = keys.find? n :=
    FieldKeys.find?_congr fun name _ => h name
  have hused (keys : FieldKeys) : keys.isUsed m = keys.isUsed n := by
    funext name
    rw [FieldKeys.isUsed, FieldKeys.isUsed, hfind]
  funext k
  cases k with
  | text name => simp only [keyProblem?, hused]
  | _ => rfl

theorem kind_of_keyProblem? {k : Scalar} {p : Problem} (h : keyProblem? fields m k = some p) :
    p.location = [k.place] ∧ p.kind = if k.isText then .unknownKey else .keyNotText := by
  unfold keyProblem? at h
  split at h
  · split at h
    · cases h
    · cases h
      exact ⟨rfl, rfl⟩
  · next hk =>
      cases h
      refine ⟨rfl, ?_⟩
      cases k with
      | text name => exact absurd rfl (hk name)
      | _ => rfl

/-- Problems of other kinds are those of keys that are no texts. -/
theorem filter_keyProblems (fields : List FieldKeys) (m : List (Scalar × Value)) :
    ((keyProblems fields m).filter fun p => p.kind ≠ .unknownKey) =
      (Entries.otherKeys m).filterMap (keyProblem? fields m) := by
  rw [keyProblems, Entries.otherKeys, List.filter_filterMap, List.filterMap_filter]
  congr 1
  funext k
  cases hp : keyProblem? fields m k with
  | none => simp
  | some p =>
      have hkind := (kind_of_keyProblem? hp).2
      cases hk : k.isText <;> simp [hk, hkind, Option.filter]

theorem reordered_keyProblems (hm : (Entries.textKeys m).Nodup) (hn : (Entries.textKeys n).Nodup)
    (hother : Entries.otherKeys m = Entries.otherKeys n)
    (h : ∀ name, Value.field? name m = Value.field? name n) :
    Problem.Reordered (keyProblems fields m) (keyProblems fields n) where
  keys p hp := by
    obtain ⟨k, -, hk⟩ := List.mem_filterMap.mp hp
    obtain ⟨hlocation, hkind⟩ := kind_of_keyProblem? hk
    refine ⟨⟨_, hlocation⟩, ?_⟩
    rw [hkind]
    cases k.isText
    · exact .inr rfl
    · exact .inl rfl
  perm := by
    rw [keyProblems, keyProblems, keyProblem?_congr h]
    exact (Entries.perm_keys hm hn hother h).filterMap _
  others := by
    rw [filter_keyProblems, filter_keyProblems, hother, keyProblem?_congr h]

end Keys

/-! ## records that refuse unknown keys -/

namespace Reading

variable {α : Type}

/-- What a reading finds wrong. -/
def problems : Reading α → List Problem
  | .error (.problems ps) => ps
  | .ok _ | .error (.fault _) => []

/-- Two readings that are the same but for the order of unknown keys, which are told last. -/
inductive Reordered : Reading α → Reading α → Prop
  | refl (x : Reading α) : Reordered x x
  | problems (ps : List Problem) {us us' : List Problem} (h : Problem.Reordered us us') :
      Reordered (.error (.problems (ps ++ us))) (.error (.problems (ps ++ us')))

end Reading

/-- The problems of unknown keys follow those of the fields. -/
theorem Shape.read_record_of_keyProblems {ρ α : Type} {style : RecordStyle} {fields : Fields ρ}
    {es : List (Scalar × Value)} (hstyle : style.unknownKeys = .refused) (packing : Packing ρ α)
    (hread : (fields.read es).Faultless) (h : keyProblems fields.keys es ≠ []) :
    (Shape.record style fields packing).read (.map es) =
      .error (.problems ((fields.read es).problems ++ keyProblems fields.keys es)) := by
  rw [Shape.read, hstyle, readKeys_refused, if_neg h]
  cases hx : fields.read es with
  | ok a => rfl
  | error r => cases r with
    | problems ps => rfl
    | fault f => exact absurd hx (hread f)

/-- What is under texts, and in which order the other keys stand, is all that matters. -/
theorem Shape.reordered_read_record {ρ α : Type} {style : RecordStyle} {fields : Fields ρ}
    {m n : List (Scalar × Value)} (hstyle : style.unknownKeys = .refused) (packing : Packing ρ α)
    (hread : (fields.read m).Faultless)
    (hkeys : Problem.Reordered (keyProblems fields.keys m) (keyProblems fields.keys n))
    (h : ∀ name, Value.field? name m = Value.field? name n) :
    Reading.Reordered ((Shape.record style fields packing).read (.map m))
      ((Shape.record style fields packing).read (.map n)) := by
  have hfields : fields.read m = fields.read n :=
    fields.read_of_find?_eq fun part _ => FieldKeys.find?_congr fun name _ => h name
  by_cases hnone : keyProblems fields.keys m = []
  · rw [Shape.read, Shape.read, hstyle, readKeys_refused, readKeys_refused, if_pos hnone,
      if_pos (hkeys.eq_nil_iff.mp hnone), hfields]
    exact .refl _
  · have hnone' : keyProblems fields.keys n ≠ [] := fun h => hnone (hkeys.eq_nil_iff.mpr h)
    rw [Shape.read_record_of_keyProblems hstyle packing hread hnone,
      Shape.read_record_of_keyProblems hstyle packing (hfields ▸ hread) hnone', hfields]
    exact .problems _ hkeys

/-- The check of settings as a whole comes after all others, when there are no problems of keys. -/
theorem Settings.reordered_read {m n : List (Scalar × Value)}
    (hkeys : ∀ fields, Problem.Reordered (keyProblems fields m) (keyProblems fields n))
    (h : ∀ name, Value.field? name m = Value.field? name n) :
    Reading.Reordered (read (.map m)) (read (.map n)) := by
  have hshape : Reading.Reordered (shape.read (.map m)) (shape.read (.map n)) :=
    Shape.reordered_read_record rfl _ (Fields.faultless_read _ (by decide +kernel) m) (hkeys _) h
  unfold read
  generalize shape.read (.map m) = x, shape.read (.map n) = y at hshape ⊢
  cases hshape with
  | refl x => exact .refl _
  | problems ps hus => exact .problems ps hus

/-! ## settings from merged mappings -/

/-- A mapping whose keys are texts, none of them twice. -/
structure Entries.TextKeyed {α : Type} (m : Entries Scalar α) : Prop where
  text : ∀ k ∈ m.map Prod.fst, k.isText = true
  distinct : (m.map Prod.fst).Nodup

namespace Entries.TextKeyed

variable {α : Type} {m : Entries Scalar α}

theorem nodup_textKeys (h : TextKeyed m) : (textKeys m).Nodup := h.distinct.filter _

theorem otherKeys_eq_nil (h : TextKeyed m) : otherKeys m = [] := by
  rw [otherKeys, List.filter_eq_nil_iff]
  intro k hk
  simp [h.text k hk]

end Entries.TextKeyed

namespace Config

/-- The overrides have a value for a key. -/
def Hides (overrides : List (Scalar × Value)) (name : String) : Prop :=
  ∃ v, (.text name, v) ∈ overrides ∧ v.isNull = false

variable {overrides d d' : List (Scalar × Value)}

/-- The merged mappings have the same values. -/
theorem field?_override
    (h : ∀ name, ¬ Hides overrides name → Value.field? name d = Value.field? name d')
    (name : String) :
    Value.field? name (override overrides d) = Value.field? name (override overrides d') := by
  rw [override, override, Value.field?_putAll, Value.field?_putAll]
  cases hnew : Value.field? name (overrides.filter fun e => !e.2.isNull).reverse with
  | some v => rfl
  | none =>
      rw [Option.none_or, Option.none_or]
      apply h
      rintro ⟨v, hmem, hnull⟩
      refine Entries.get?_eq_none_iff.mp hnew (List.mem_map.mpr ⟨(.text name, v), ?_, rfl⟩)
      simp [hmem, hnull]

/-- The merged mappings have the same problems of keys. -/
theorem reordered_keyProblems_override (hd : Entries.TextKeyed d) (hd' : Entries.TextKeyed d')
    (h : ∀ name, ¬ Hides overrides name → Value.field? name d = Value.field? name d')
    (fields : List FieldKeys) :
    Problem.Reordered (keyProblems fields (override overrides d))
      (keyProblems fields (override overrides d')) :=
  reordered_keyProblems (Entries.nodup_textKeys_putAll _ hd.nodup_textKeys)
    (Entries.nodup_textKeys_putAll _ hd'.nodup_textKeys)
    (Entries.otherKeys_putAll _ (hd.otherKeys_eq_nil.trans hd'.otherKeys_eq_nil.symm))
    (field?_override h)

/-- What is under keys that are overridden does not show in the outcome, but for the order of
unknown keys.  Overrides that are null have no part in it at all. -/
theorem ofEntries_hides (overrides : List (Scalar × Value)) :
    (∀ d d', Entries.TextKeyed d → Entries.TextKeyed d' →
      (∀ name, ¬ Hides overrides name → Value.field? name d = Value.field? name d') →
      (∃ s, ofEntries d overrides = .ok s ∧ ofEntries d' overrides = .ok s) ∨
      ∃ ps us us', Problem.Reordered us us' ∧
        ofEntries d overrides = .error (.invalid (ps ++ us)) ∧
        ofEntries d' overrides = .error (.invalid (ps ++ us'))) ∧
    ∀ d, ofEntries d (overrides.filter fun e => !e.2.isNull) = ofEntries d overrides := by
  constructor
  · intro d d' hd hd' h
    have hread := Settings.reordered_read (reordered_keyProblems_override hd hd' h)
      (field?_override h)
    have hfaultless := Settings.faultless_read (.map (override overrides d))
    unfold ofEntries
    generalize Settings.read (.map (override overrides d)) = x,
      Settings.read (.map (override overrides d')) = y at hread hfaultless ⊢
    cases hread with
    | problems ps hus => exact .inr ⟨ps, _, _, hus, rfl, rfl⟩
    | refl x => cases x with
      | ok s => exact .inl ⟨s, rfl, rfl⟩
      | error r => cases r with
        | fault f => exact absurd rfl (hfaultless f)
        | problems ps =>
            refine .inr ⟨ps, [], [], ⟨by simp, .nil, rfl⟩, ?_, ?_⟩ <;>
              rw [List.append_nil] <;> rfl
  · intro d
    rw [ofEntries, ofEntries, override, override, List.filter_filter]
    simp only [Bool.and_self]

/-- Values under two keys that get overridden. -/
def shadedValues : List (Scalar × Value) :=
  [(.text "tint", .int 1), (.text "namespace", .text "mesh"), (.text "replicas", .text "many")]

/-- The same values without those. -/
def plainValues : List (Scalar × Value) := [(.text "namespace", .text "mesh")]

/-- Overrides with an unknown key more, and one that is null. -/
def shades : List (Scalar × Value) :=
  [(.text "shade", .int 0), (.text "tint", .int 2), (.text "replicas", .int 2),
    (.text "namespace", .null)]

theorem ofEntries_hides_shades :
    (Entries.TextKeyed shadedValues ∧ Entries.TextKeyed plainValues ∧
      ∀ name, ¬ Hides shades name →
        Value.field? name shadedValues = Value.field? name plainValues) ∧
    ((∃ s, ofEntries shadedValues shades = .ok s ∧ ofEntries plainValues shades = .ok s) ∨
      ∃ ps us us', Problem.Reordered us us' ∧
        ofEntries shadedValues shades = .error (.invalid (ps ++ us)) ∧
        ofEntries plainValues shades = .error (.invalid (ps ++ us'))) ∧
    ofEntries shadedValues (shades.filter fun e => !e.2.isNull) =
      ofEntries shadedValues shades := by
  have hshaded : Entries.TextKeyed shadedValues := ⟨by decide, by decide⟩
  have hplain : Entries.TextKeyed plainValues := ⟨by decide, by decide⟩
  have hagree : ∀ name, ¬ Hides shades name →
      Value.field? name shadedValues = Value.field? name plainValues := by
    intro name hname
    have htint : name ≠ "tint" := by
      rintro rfl
      exact hname ⟨.int 2, by simp [shades], rfl⟩
    have hreplicas : name ≠ "replicas" := by
      rintro rfl
      exact hname ⟨.int 2, by simp [shades], rfl⟩
    simp [shadedValues, plainValues, Value.field?, Entries.get?, Ne.symm htint, Ne.symm hreplicas]
  exact ⟨⟨hshaded, hplain, hagree⟩, (ofEntries_hides shades).1 _ _ hshaded hplain hagree,
    (ofEntries_hides shades).2 shadedValues⟩

example : ofEntries shadedValues shades =
      .error (.invalid [⟨[.key "tint"], .unknownKey⟩, ⟨[.key "shade"], .unknownKey⟩]) ∧
    ofEntries plainValues shades =
      .error (.invalid [⟨[.key "shade"], .unknownKey⟩, ⟨[.key "tint"], .unknownKey⟩]) := by
  decide +kernel

end Config

end ControlPlane
