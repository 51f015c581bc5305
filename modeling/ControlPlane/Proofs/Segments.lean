import ControlPlane.Interpolation
import Mathlib.Data.List.Forall2

/-!
# One pass over a template

`Segment.Cuts` says how a template is to be cut: at every place a construct is cut off if one begins
there, and one character otherwise.  There is one way to cut a template (`Segment.cuts_iff`), and no
variable has a part in it.  What becomes of each segment is said by `Segment.Yields` and
`Segment.Fails`.

The main result puts these together: interpolation gives the texts of the segments in a row, or what
is wrong with the first segment that has none, and it depends on no other variables than those that
the placeholders name (`interpolate_single_pass`).
-/

namespace ControlPlane

namespace Segment

/-! ## the cut of a template -/

/-- Segments cut a text from left to right: a construct is cut off wherever one begins. -/
inductive Cuts : List Char → List Segment → Prop
  | nil : Cuts [] []
  | construct {s : Segment} {rest : List Char} {segs : List Segment}
      (hconstruct : s.isConstruct = true) (hvalid : s.Valid) (h : Cuts rest segs) :
      Cuts (s.source ++ rest) (s :: segs)
  | literal {c : Char} {rest : List Char} {segs : List Segment}
      (hnone : ∀ s : Segment, ¬ s.Begins (c :: rest)) (h : Cuts rest segs) :
      Cuts (c :: rest) (.literal c :: segs)

theorem Cuts.eq_segments {cs : List Char} {segs : List Segment} (h : Cuts cs segs) :
    segs = segments cs := by
  induction h with
  | nil => rfl
  | construct hconstruct hvalid _ ih => rw [segments_append hconstruct hvalid, ih]
  | literal hnone _ ih => rw [segments_cons_of_not_begins hnone, ih]

/-- The segments of a text cut it.  The recursion is on its length, since a segment may take more
than one character. -/
theorem cuts_segments : (cs : List Char) → Cuts cs (segments cs)
  | [] => .nil
  | c :: cs => by
      by_cases hbegins : ∃ s : Segment, s.Begins (c :: cs)
      · obtain ⟨s, hconstruct, hvalid, rest, hrest⟩ := hbegins
        have hpos := List.length_pos_iff.mpr s.source_ne_nil
        have hlength : s.source.length + rest.length = cs.length + 1 := by
          rw [← List.length_append, hrest, List.length_cons]
        rw [← hrest, segments_append hconstruct hvalid]
        exact .construct hconstruct hvalid (cuts_segments rest)
      · have hnone : ∀ s : Segment, ¬ s.Begins (c :: cs) := not_exists.mp hbegins
        rw [segments_cons_of_not_begins hnone]
        exact .literal hnone (cuts_segments cs)
termination_by cs => cs.length

/-- There is one way to cut a text. -/
theorem cuts_iff {cs : List Char} {segs : List Segment} : Cuts cs segs ↔ segs = segments cs := by
  constructor
  · exact Cuts.eq_segments
  · rintro rfl
    exact cuts_segments cs

/-! ## what becomes of a segment -/

section Expansion

variable {vars : Variables}

/-- A variable is unset or empty. -/
def Lacks (vars : Variables) (name : List Char) : Prop :=
  vars.value? (String.ofList name) = none ∨ vars.value? (String.ofList name) = some ""

/-- The text that a segment stands for.  A value is put in as it is, and so is a default. -/
inductive Yields (vars : Variables) : Segment → List Char → Prop
  | literal (c : Char) : Yields vars (.literal c) [c]
  | dollar : Yields vars .dollar ['$']
  | value {name : List Char} {s : String} (fallback : Fallback)
      (h : vars.value? (String.ofList name) = some s) (hne : fallback ≠ .none → s ≠ "") :
      Yields vars (.placeholder name fallback) s.toList
  | default {name : List Char} (text : List Char) (h : Lacks vars name) :
      Yields vars (.placeholder name (.default text)) text

/-- What is wrong with a segment that stands for no text. -/
inductive Fails (vars : Variables) : Segment → Unset → Prop
  | missing {name : List Char} (h : vars.value? (String.ofList name) = none) :
      Fails vars (.placeholder name .none) (.missing (String.ofList name))
  | required {name : List Char} (text : List Char) (h : Lacks vars name) :
      Fails vars (.placeholder name (.message text))
        (.required (String.ofList name)
          (if text = [] then "must be set" else String.ofList text))

theorem filter_isEmpty_of_lacks {name : List Char} (h : Lacks vars name) :
    (vars.value? (String.ofList name)).filter (fun s => !s.isEmpty) = none := by
  rcases h with h | h <;> rw [h] <;> rfl

theorem expand_of_yields {s : Segment} {text : List Char} (h : Yields vars s text) :
    s.expand vars = .ok text := by
  cases h with
  | literal c => rfl
  | dollar => rfl
  | @value name s fallback h hne =>
      cases fallback with
      | none => simp [expand, h]
      | default text => simp [expand, h, Option.filter, hne]
      | message text => simp [expand, h, Option.filter, hne]
  | default text h => simp [expand, filter_isEmpty_of_lacks h]

theorem expand_of_fails {s : Segment} {why : Unset} (h : Fails vars s why) :
    s.expand vars = .error why := by
  cases h with
  | missing h => simp [expand, h]
  | required text h => simp [expand, filter_isEmpty_of_lacks h]

/-- A segment stands for a text, or something is wrong with it. -/
theorem yields_or_fails (vars : Variables) (s : Segment) :
    (∃ text, Yields vars s text) ∨ ∃ why, Fails vars s why := by
  cases s with
  | literal c => exact .inl ⟨_, .literal c⟩
  | dollar => exact .inl ⟨_, .dollar⟩
  | placeholder name fallback =>
      cases hvalue : vars.value? (String.ofList name) with
      | none =>
          cases fallback with
          | none => exact .inr ⟨_, .missing hvalue⟩
          | default text => exact .inl ⟨_, .default text (.inl hvalue)⟩
          | message text => exact .inr ⟨_, .required text (.inl hvalue)⟩
      | some s =>
          by_cases hs : s = ""
          · subst hs
            cases fallback with
            | none => exact .inl ⟨_, .value .none hvalue fun h => absurd rfl h⟩
            | default text => exact .inl ⟨_, .default text (.inr hvalue)⟩
            | message text => exact .inr ⟨_, .required text (.inr hvalue)⟩
          · exact .inl ⟨_, .value fallback hvalue fun _ => hs⟩

/-- Nothing is wrong with a segment if and only if it stands for a text. -/
theorem not_fails_iff {s : Segment} : (∀ why, ¬ Fails vars s why) ↔ ∃ text, Yields vars s text := by
  constructor
  · intro h
    exact (yields_or_fails vars s).resolve_right fun ⟨why, hwhy⟩ => h why hwhy
  · rintro ⟨text, hyields⟩ why hfails
    have hok := expand_of_yields hyields
    rw [expand_of_fails hfails] at hok
    cases hok

/-! ## what becomes of all segments -/

/-- Something is wrong with segments: this is wrong with the first of them that stands for no
text. -/
def FirstFails (vars : Variables) (segs : List Segment) (why : Unset) : Prop :=
  ∃ before s after, segs = before ++ s :: after ∧
    (∀ b ∈ before, ∀ why', ¬ Fails vars b why') ∧ Fails vars s why

theorem expandAll_of_yields {segs : List Segment} {texts : List (List Char)}
    (h : List.Forall₂ (Yields vars) segs texts) : expandAll vars segs = .ok texts.flatten := by
  induction h with
  | nil => rfl
  | cons hs _ ih => simp [expandAll, expand_of_yields hs, ih, Except.map]

theorem expandAll_of_firstFails {segs : List Segment} {why : Unset}
    (h : FirstFails vars segs why) : expandAll vars segs = .error why := by
  obtain ⟨before, s, after, rfl, hbefore, hs⟩ := h
  induction before with
  | nil => simp [expandAll, expand_of_fails hs]
  | cons b before ih =>
      obtain ⟨text, htext⟩ := not_fails_iff.mp (hbefore b List.mem_cons_self)
      have hrest := ih fun b' hb' => hbefore b' (List.mem_cons_of_mem b hb')
      simp [expandAll, expand_of_yields htext, hrest, Except.map]

/-- All segments stand for texts, or something is wrong with one of them and then with a first. -/
theorem yield_or_firstFails (vars : Variables) (segs : List Segment) :
    (∃ texts, List.Forall₂ (Yields vars) segs texts) ∨ ∃ why, FirstFails vars segs why := by
  induction segs with
  | nil => exact .inl ⟨[], .nil⟩
  | cons s segs ih =>
      rcases yields_or_fails vars s with ⟨text, hs⟩ | ⟨why, hs⟩
      · rcases ih with ⟨texts, htexts⟩ | ⟨why, before, t, after, rfl, hbefore, ht⟩
        · exact .inl ⟨text :: texts, .cons hs htexts⟩
        · refine .inr ⟨why, s :: before, t, after, rfl, ?_, ht⟩
          exact List.forall_mem_cons.mpr ⟨not_fails_iff.mpr ⟨text, hs⟩, hbefore⟩
      · exact .inr ⟨why, [], s, segs, rfl, by simp, hs⟩

theorem expandAll_eq_ok_iff {segs : List Segment} {text : List Char} :
    expandAll vars segs = .ok text ↔
      ∃ texts, List.Forall₂ (Yields vars) segs texts ∧ text = texts.flatten := by
  constructor
  · intro h
    rcases yield_or_firstFails vars segs with ⟨texts, htexts⟩ | ⟨why, hwhy⟩
    · rw [expandAll_of_yields htexts] at h
      exact ⟨texts, htexts, (Except.ok.inj h).symm⟩
    · rw [expandAll_of_firstFails hwhy] at h
      cases h
  · rintro ⟨texts, htexts, rfl⟩
    exact expandAll_of_yields htexts

theorem expandAll_eq_error_iff {segs : List Segment} {why : Unset} :
    expandAll vars segs = .error why ↔ FirstFails vars segs why := by
  refine ⟨fun h => ?_, expandAll_of_firstFails⟩
  rcases yield_or_firstFails vars segs with ⟨texts, htexts⟩ | ⟨why', hwhy⟩
  · rw [expandAll_of_yields htexts] at h
    cases h
  · rw [expandAll_of_firstFails hwhy] at h
    exact Except.error.inj h ▸ hwhy

/-- A first segment fails if and only if one does. -/
theorem exists_firstFails_iff {segs : List Segment} :
    (∃ why, FirstFails vars segs why) ↔ ∃ s ∈ segs, ∃ why, Fails vars s why := by
  constructor
  · rintro ⟨why, before, s, after, rfl, -, hs⟩
    exact ⟨s, by simp, why, hs⟩
  · rintro ⟨s, hmem, why, hs⟩
    refine (yield_or_firstFails vars segs).resolve_left ?_
    rintro ⟨texts, htexts⟩
    have hyield : ∀ t ∈ segs, ∃ text, Yields vars t text := by
      clear hmem
      induction htexts with
      | nil => simp
      | cons ht _ ih => exact List.forall_mem_cons.mpr ⟨⟨_, ht⟩, ih⟩
    exact not_fails_iff.mpr (hyield s hmem) why hs

/-- Only the variables that placeholders name have a part in their texts. -/
theorem expandAll_congr {vars' : Variables} {segs : List Segment}
    (h : ∀ name fallback, .placeholder name fallback ∈ segs →
      vars.value? (String.ofList name) = vars'.value? (String.ofList name)) :
    expandAll vars segs = expandAll vars' segs := by
  induction segs with
  | nil => rfl
  | cons s segs ih =>
      have hs : s.expand vars = s.expand vars' := by
        cases s with
        | literal c => rfl
        | dollar => rfl
        | placeholder name fallback =>
            simp only [expand, h name fallback List.mem_cons_self]
      have hsegs := ih fun name fallback hmem => h name fallback (List.mem_cons_of_mem s hmem)
      simp only [expandAll, hs, hsegs]

end Expansion

end Segment

/-! ## main results -/

open Segment

section Interpolation

variable {vars : Variables} {template : String}

theorem interpolate_eq_ok_iff {text : String} :
    interpolate template vars = .ok text ↔
      ∃ cs, expandAll vars (segments template.toList) = .ok cs ∧ text = String.ofList cs := by
  unfold interpolate
  cases expandAll vars (segments template.toList) with
  | error why => simp [Except.map]
  | ok cs => simp [Except.map, eq_comm]

theorem interpolate_eq_error_iff {why : Unset} :
    interpolate template vars = .error why ↔
      expandAll vars (segments template.toList) = .error why := by
  unfold interpolate
  cases expandAll vars (segments template.toList) with
  | error why => simp [Except.map]
  | ok cs => simp [Except.map]

end Interpolation

/-- A template is cut in one way, which no variable has a part in.  Its text is that of its segments
in a row: characters as they are, a dollar sign for two, and for a placeholder the value of its
variable or its default, neither of which is looked at again.  There is none if and only if one of
the placeholders has none, and then the first of these says why.  So the text depends on the
variables that the placeholders name and on no others. -/
theorem interpolate_single_pass (template : String) :
    (∀ segs, Cuts template.toList segs ↔ segs = segments template.toList) ∧
    (segments template.toList).flatMap source = template.toList ∧
    ∀ vars,
      (∀ text, interpolate template vars = .ok text ↔
        ∃ texts, List.Forall₂ (Yields vars) (segments template.toList) texts ∧
          text = String.ofList texts.flatten) ∧
      ((∃ why, interpolate template vars = .error why) ↔
        ∃ s ∈ segments template.toList, ∃ why, Fails vars s why) ∧
      (∀ why, interpolate template vars = .error why ↔
        FirstFails vars (segments template.toList) why) ∧
      ∀ vars', (∀ name fallback, .placeholder name fallback ∈ segments template.toList →
          vars.value? (String.ofList name) = vars'.value? (String.ofList name)) →
        interpolate template vars = interpolate template vars' := by
  refine ⟨fun segs => cuts_iff, flatMap_source_segments _, fun vars => ⟨?_, ?_, ?_, ?_⟩⟩
  · intro text
    simp only [interpolate_eq_ok_iff, expandAll_eq_ok_iff]
    constructor
    · rintro ⟨cs, ⟨texts, htexts, rfl⟩, rfl⟩
      exact ⟨texts, htexts, rfl⟩
    · rintro ⟨texts, htexts, rfl⟩
      exact ⟨_, ⟨texts, htexts, rfl⟩, rfl⟩
  · simp only [interpolate_eq_error_iff, expandAll_eq_error_iff, exists_firstFails_iff]
  · intro why
    rw [interpolate_eq_error_iff, expandAll_eq_error_iff]
  · intro vars' h
    rw [interpolate, interpolate, expandAll_congr h]

/-- A default ends at the first closing brace, and a dollar sign in it is one: of two variables only
the first is named. -/
theorem interpolate_single_pass_nested :
    interpolate "$\x7bA:-$\x7bB\x7d\x7d$$" [] =
      interpolate "$\x7bA:-$\x7bB\x7d\x7d$$" [("B", "$\x7bA\x7d")] ∧
    interpolate "$\x7bA:-$\x7bB\x7d\x7d$$" [] = .ok "$\x7bB\x7d$" := by
  have hsegments : segments "$\x7bA:-$\x7bB\x7d\x7d$$".toList =
      [.placeholder ['A'] (.default ['$', '\x7b', 'B']), .literal '\x7d', .dollar] := by
    decide +kernel
  obtain ⟨-, -, hvars⟩ := interpolate_single_pass "$\x7bA:-$\x7bB\x7d\x7d$$"
  obtain ⟨-, -, -, hcongr⟩ := hvars []
  refine ⟨hcongr _ ?_, by rfl⟩
  intro name fallback hmem
  rw [hsegments] at hmem
  obtain ⟨rfl, -⟩ : name = ['A'] ∧ fallback = .default ['$', '\x7b', 'B'] := by simpa using hmem
  rfl

end ControlPlane
