import ControlPlane.Interpolation

/-!
# Templates put together

A template can be written for any text that is to come out: dollar signs are doubled in texts, and
placeholders stand as they are (`TemplatePart.template`).  Nothing new comes about where two parts
meet, since a part is cut off as a whole whatever follows it (`Segment.segments_template_append`).
So interpolation gives back the texts and the placeholders' own values, in a row, or fails as the
first placeholder that fails by itself (`interpolate_join_template`).
-/

namespace ControlPlane

/-! ## parts of a template -/

/-- A placeholder that can be written: it has a name, and no closing brace in its fallback. -/
structure Placeholder where
  name : List Char
  fallback : Fallback
  isName_name : Segment.isName name = true
  brace_notMem : '\x7d' ∉ fallback.text

namespace Placeholder

/-- The placeholder as a segment. -/
def segment (p : Placeholder) : Segment := .placeholder p.name p.fallback

/-- The text of the placeholder in a template. -/
def template (p : Placeholder) : String := String.ofList p.segment.source

end Placeholder

/-- The template for a text: every dollar sign is doubled. -/
def dollarsDoubled (s : String) : String :=
  String.ofList (s.toList.flatMap fun c => if c = '$' then ['$', '$'] else [c])

/-- A part that a template is put together from. -/
inductive TemplatePart where
  /-- A text that is to come out as it is. -/
  | text (s : String)
  /-- A variable. -/
  | placeholder (p : Placeholder)

namespace TemplatePart

/-- How a part is written. -/
def template : TemplatePart → String
  | .text s => dollarsDoubled s
  | .placeholder p => p.template

/-- The text of a part by itself, or what is wrong with it. -/
def own (vars : Variables) : TemplatePart → Except Unset String
  | .text s => .ok s
  | .placeholder p => interpolate p.template vars

end TemplatePart

/-! ## segments of a part -/

namespace Segment

/-- The segment that stands for a character. -/
def standingFor (c : Char) : Segment := if c = '$' then .dollar else .literal c

/-- The segments of a part. -/
def ofPart : TemplatePart → List Segment
  | .text s => s.toList.map standingFor
  | .placeholder p => [p.segment]

/-- No construct begins with a character other than a dollar sign. -/
theorem not_begins_of_ne {c : Char} (h : c ≠ '$') (cs : List Char) (s : Segment) :
    ¬ s.Begins (c :: cs) := by
  rintro ⟨hconstruct, -, hprefix⟩
  cases s with
  | literal d => cases hconstruct
  | dollar => exact h (List.cons_prefix_cons.mp hprefix).1.symm
  | placeholder name fallback => exact h (List.cons_prefix_cons.mp hprefix).1.symm

/-- A text that is written with doubled dollar signs is cut into its characters.  Two dollar signs
are cut off before the next character is looked at, so it does not matter what that is. -/
theorem segments_doubled_append (cs rest : List Char) :
    segments ((cs.flatMap fun c => if c = '$' then ['$', '$'] else [c]) ++ rest) =
      cs.map standingFor ++ segments rest := by
  induction cs with
  | nil => rfl
  | cons c cs ih =>
      rw [List.flatMap_cons, List.append_assoc, List.map_cons, List.cons_append, ← ih]
      by_cases hc : c = '$'
      · rw [if_pos hc, standingFor, if_pos hc]
        exact segments_append (s := .dollar) rfl trivial _
      · rw [if_neg hc, standingFor, if_neg hc]
        exact segments_cons_of_not_begins (not_begins_of_ne hc _)

/-- A part is cut off as a whole, whatever follows it. -/
theorem segments_template_append (part : TemplatePart) (rest : List Char) :
    segments (part.template.toList ++ rest) = ofPart part ++ segments rest := by
  cases part with
  | text s =>
      rw [TemplatePart.template, dollarsDoubled, String.toList_ofList]
      exact segments_doubled_append s.toList rest
  | placeholder p =>
      rw [TemplatePart.template, Placeholder.template, String.toList_ofList]
      exact segments_append (s := p.segment) rfl ⟨p.isName_name, p.brace_notMem⟩ rest

/-! ## texts of segments -/

variable (vars : Variables)

/-- Segments behind others add their text, unless something is wrong with the first ones. -/
theorem expandAll_append (segs more : List Segment) :
    expandAll vars (segs ++ more) =
      (expandAll vars segs).bind fun text => (expandAll vars more).map (text ++ ·) := by
  induction segs with
  | nil => cases h : expandAll vars more <;> simp [expandAll, h, Except.bind, Except.map]
  | cons s segs ih =>
      rw [List.cons_append, expandAll, expandAll]
      cases s.expand vars with
      | error why => rfl
      | ok first =>
          rw [ih]
          cases expandAll vars segs with
          | error why => rfl
          | ok text => cases expandAll vars more <;> simp [Except.bind, Except.map]

theorem expandAll_standingFor (cs : List Char) :
    expandAll vars (cs.map standingFor) = .ok cs := by
  induction cs with
  | nil => rfl
  | cons c cs ih =>
      have hc : (standingFor c).expand vars = .ok [c] := by
        unfold standingFor
        split
        · next h => rw [h, expand]
        · rfl
      rw [List.map_cons, expandAll, hc, ih]
      rfl

/-- The segments of a part have its own text. -/
theorem expandAll_ofPart (part : TemplatePart) :
    (expandAll vars (ofPart part)).map String.ofList = part.own vars := by
  cases part with
  | text s =>
      rw [ofPart, expandAll_standingFor]
      simp [Except.map, TemplatePart.own]
  | placeholder p =>
      have hcut := segments_template_append (.placeholder p) []
      rw [List.append_nil] at hcut
      rw [TemplatePart.own, interpolate]
      exact congrArg _ (congrArg _ (hcut.trans (by simp [segments, segmentsAfter])).symm)

end Segment

/-! ## main results -/

/-- What stands behind a part does not change its text. -/
theorem interpolate_template_append (part : TemplatePart) (rest : String) (vars : Variables) :
    interpolate (part.template ++ rest) vars =
      (part.own vars).bind fun text => (interpolate rest vars).map (text ++ ·) := by
  rw [interpolate, String.toList_append, Segment.segments_template_append,
    Segment.expandAll_append, ← Segment.expandAll_ofPart, interpolate]
  cases Segment.expandAll vars (Segment.ofPart part) with
  | error why => rfl
  | ok text =>
      cases Segment.expandAll vars (Segment.segments rest.toList) <;>
        simp [Except.bind, Except.map]

/-- A template put together from parts has the texts of the parts in a row, or fails as the first of
them that fails by itself.  So any text comes back from its template. -/
theorem interpolate_join_template :
    (∀ (parts : List TemplatePart) (vars : Variables),
      interpolate (String.join (parts.map TemplatePart.template)) vars =
        (parts.mapM (TemplatePart.own vars)).map String.join) ∧
    ∀ (s : String) (vars : Variables), interpolate (dollarsDoubled s) vars = .ok s := by
  have hparts (parts : List TemplatePart) (vars : Variables) :
      interpolate (String.join (parts.map TemplatePart.template)) vars =
        (parts.mapM (TemplatePart.own vars)).map String.join := by
    induction parts with
    | nil => rfl
    | cons part parts ih =>
        rw [List.map_cons, String.join_cons, interpolate_template_append, ih, List.mapM_cons]
        cases part.own vars with
        | error why => rfl
        | ok text =>
            cases parts.mapM (TemplatePart.own vars) <;>
              simp [Except.bind, Except.map, bind, pure, Except.pure]
  refine ⟨hparts, fun s vars => ?_⟩
  have hs := hparts [.text s] vars
  simpa [TemplatePart.template, TemplatePart.own, Except.map, pure, Except.pure, bind, Except.bind]
    using hs

example : interpolate "$$$\x7bA\x7d$$\x7bA\x7d" [("A", "$")] = .ok "$$$\x7bA\x7d" := by rfl

end ControlPlane
