import ControlPlane.Text.Split
import ControlPlane.Value.Entries

/-!
# Interpolation of variables

A template is cut into segments, from left to right and without looking at any variable: a doubled
dollar sign, a placeholder, or a single other character.  Each segment then has a text of its own,
and the text of the template is theirs in a row.  A text that a variable or a default puts in is not
looked at again.

A placeholder `${NAME}` needs the variable to be set, `${NAME:-text}` has a default for one that is
unset or empty, and `${NAME:?text}` has a message for that case.

Main statements: the first segment of a template is the placeholder or the doubled dollar sign that
stands at its start, if there is one (`Segment.first_of_begins`, `Segment.first_cases`), and the
segments put together are the template (`Segment.flatMap_source_segments`).
-/

namespace ControlPlane

/-- Variables by name. -/
abbrev Variables := Entries String String

namespace Variables

/-- The value of a variable, if it is set. -/
def value? (vars : Variables) (name : String) : Option String := Entries.get? (· == ·) name vars

end Variables

/-- What a placeholder does when its variable has no value. -/
inductive Fallback where
  /-- The variable must be set, to any text. -/
  | none
  /-- A variable that is unset or empty has this text. -/
  | default (text : List Char)
  /-- A variable that is unset or empty is refused with this message. -/
  | message (text : List Char)
  deriving DecidableEq, Repr

/-- The text of a fallback. -/
def Fallback.text : Fallback → List Char
  | .none => []
  | .default text | .message text => text

/-- A piece of a template. -/
inductive Segment where
  /-- A character that stands for itself. -/
  | literal (c : Char)
  /-- Two dollar signs, which stand for one. -/
  | dollar
  /-- A variable. -/
  | placeholder (name : List Char) (fallback : Fallback)
  deriving DecidableEq, Repr

/-- Why a template has no text. -/
inductive Unset where
  /-- The variable is not set. -/
  | missing (name : String)
  /-- The variable is unset or empty, and this is the message about it. -/
  | required (name message : String)
  deriving DecidableEq, Repr

/-- The wording of an unset variable. -/
def Unset.message : Unset → String
  | .missing name => "Variable " ++ name ++ " not found in context"
  | .required name message => name ++ ": " ++ message

namespace Segment

/-! ## names -/

/-- Whether a character may start the name of a variable. -/
def isNameStart (c : Char) : Bool :=
  ('A' ≤ c && c ≤ 'Z') || ('a' ≤ c && c ≤ 'z') || c == '_'

/-- Whether a character may stand in the name of a variable. -/
def isNameChar (c : Char) : Bool := isNameStart c || ('0' ≤ c && c ≤ '9')

/-- Whether a text is the name of a variable. -/
def isName : List Char → Bool
  | [] => false
  | c :: rest => isNameStart c && rest.all isNameChar

/-! ## segments of a template -/

/-- The characters of a fallback in the template. -/
def fallbackSource : Fallback → List Char
  | .none => []
  | .default text => ':' :: '-' :: text
  | .message text => ':' :: '?' :: text

/-- The characters of a segment in the template. -/
def source : Segment → List Char
  | .literal c => [c]
  | .dollar => ['$', '$']
  | .placeholder name fallback => '$' :: '\x7b' :: (name ++ fallbackSource fallback ++ ['\x7d'])

/-- Whether a segment stands for something other than itself. -/
def isConstruct : Segment → Bool
  | .literal _ => false
  | .dollar | .placeholder _ _ => true

/-- A placeholder has a name, and no closing brace before its end. -/
def Valid : Segment → Prop
  | .literal _ | .dollar => True
  | .placeholder name fallback => isName name = true ∧ '\x7d' ∉ fallback.text

/-- A valid construct stands at the start of a text. -/
def Begins (s : Segment) (cs : List Char) : Prop :=
  s.isConstruct = true ∧ s.Valid ∧ s.source <+: cs

/-- What follows the name of a placeholder, up to the closing brace. -/
def fallback? (cs : List Char) : Option Fallback :=
  match cs with
  | '\x7d' :: _ => some .none
  | ':' :: m :: rest =>
    let text := rest.takeWhile (· != '\x7d')
    if rest.dropWhile (· != '\x7d') = [] then none
    else if m = '-' then some (.default text)
    else if m = '?' then some (.message text)
    else none
  | _ => none

/-- The segment at a dollar sign, given what follows it. -/
def atDollar (cs : List Char) : Segment :=
  match cs with
  | '$' :: _ => .dollar
  | '\x7b' :: c :: rest =>
    if isNameStart c then
      match fallback? (rest.dropWhile isNameChar) with
      | some fallback => .placeholder (c :: rest.takeWhile isNameChar) fallback
      | none => .literal '$'
    else .literal '$'
  | _ => .literal '$'

/-- The first segment of a template that starts with a given character. -/
def first (c : Char) (cs : List Char) : Segment :=
  if c = '$' then atDollar cs else .literal c

/-- The segments of a template after its next `skip` characters. -/
def segmentsAfter : (skip : Nat) → List Char → List Segment
  | _, [] => []
  | skip + 1, _ :: cs => segmentsAfter skip cs
  | 0, c :: cs =>
    let segment := first c cs
    segment :: segmentsAfter (segment.source.length - 1) cs

/-- The segments of a template. -/
def segments (template : List Char) : List Segment := segmentsAfter 0 template

/-! ## the text of a segment -/

/-- The text of a segment. -/
def expand (vars : Variables) : Segment → Except Unset (List Char)
  | .literal c => .ok [c]
  | .dollar => .ok ['$']
  | .placeholder name fallback =>
    let value := vars.value? (String.ofList name)
    let filled := value.filter fun s => !s.isEmpty
    match fallback with
    | .none =>
      match value with
      | some s => .ok s.toList
      | none => .error (.missing (String.ofList name))
    | .default text => .ok (filled.elim text String.toList)
    | .message text =>
      match filled with
      | some s => .ok s.toList
      | none => .error (.required (String.ofList name)
          (if text.isEmpty then "must be set" else String.ofList text))

/-- The texts of segments in a row, or what is wrong with the first that has none. -/
def expandAll (vars : Variables) : List Segment → Except Unset (List Char)
  | [] => .ok []
  | s :: rest =>
    match s.expand vars with
    | .error e => .error e
    | .ok text => (expandAll vars rest).map (text ++ ·)

/-! ## the first segment -/

/-- A text that goes on to a closing brace has none before it. -/
theorem append_brace_of_dropWhile {cs : List Char} (h : cs.dropWhile (· != '\x7d') ≠ []) :
    '\x7d' ∉ cs.takeWhile (· != '\x7d') ∧
      ∃ rest, cs = cs.takeWhile (· != '\x7d') ++ '\x7d' :: rest := by
  obtain ⟨b, rest, hrest⟩ := List.exists_cons_of_ne_nil h
  have hbrace : b = '\x7d' := by
    have := List.head_dropWhile_not (fun c : Char => c != '\x7d') h
    simpa [hrest] using this
  subst hbrace
  refine ⟨?_, rest, ?_⟩
  · intro hmem
    have := List.all_eq_true.mp (List.all_takeWhile (p := (· != '\x7d')) (l := cs)) _ hmem
    simp at this
  · rw [← hrest, List.takeWhile_append_dropWhile]

theorem takeWhile_append_brace {text : List Char} (h : '\x7d' ∉ text) (rest : List Char) :
    (text ++ '\x7d' :: rest).takeWhile (· != '\x7d') = text ∧
      (text ++ '\x7d' :: rest).dropWhile (· != '\x7d') = '\x7d' :: rest := by
  have hrun : ∀ c ∈ text, (c != '\x7d') = true := by
    intro c hc
    rw [bne_iff_ne]
    rintro rfl
    exact h hc
  have hstop : ∀ c, ('\x7d' :: rest).head? = some c → (c != '\x7d') = false := by
    rintro c ⟨⟩
    rfl
  exact ⟨Text.takeWhile_append_stop hrun hstop, Text.dropWhile_append_stop hrun hstop⟩

/-- What is read behind a name is a fallback with the closing brace. -/
theorem fallback?_eq_some_iff {cs : List Char} {fallback : Fallback} :
    fallback? cs = some fallback ↔
      '\x7d' ∉ fallback.text ∧ ∃ rest, cs = fallbackSource fallback ++ '\x7d' :: rest := by
  constructor
  · unfold fallback?
    split
    · next rest =>
      rintro ⟨⟩
      exact ⟨List.not_mem_nil, rest, rfl⟩
    · next m more =>
      dsimp only
      intro h
      split at h
      · cases h
      · next hne =>
        obtain ⟨hfree, rest, hmore⟩ := append_brace_of_dropWhile hne
        split at h
        · next hmark =>
          cases h
          rw [hmark]
          exact ⟨hfree, rest, congrArg (':' :: '-' :: ·) hmore⟩
        · split at h
          · next hmark =>
            cases h
            rw [hmark]
            exact ⟨hfree, rest, congrArg (':' :: '?' :: ·) hmore⟩
          · cases h
    · intro h
      cases h
  · rintro ⟨hfree, rest, rfl⟩
    cases fallback with
    | none => rfl
    | default text =>
        obtain ⟨htake, hdrop⟩ := takeWhile_append_brace hfree rest
        rw [Fallback.text] at htake hdrop
        simp [fallbackSource, fallback?, htake, hdrop]
    | message text =>
        obtain ⟨htake, hdrop⟩ := takeWhile_append_brace hfree rest
        rw [Fallback.text] at htake hdrop
        simp [fallbackSource, fallback?, htake, hdrop]

/-- A fallback does not go on with a name. -/
theorem isNameChar_head_fallbackSource (fallback : Fallback) (rest : List Char) (c : Char)
    (h : (fallbackSource fallback ++ '\x7d' :: rest).head? = some c) : isNameChar c = false := by
  revert h
  cases fallback <;> rintro ⟨⟩ <;> decide

/-- A placeholder is found behind its dollar sign, whatever follows it. -/
theorem atDollar_append {name : List Char} {fallback : Fallback} (hname : isName name = true)
    (hfree : '\x7d' ∉ fallback.text) (rest : List Char) :
    atDollar ('\x7b' :: (name ++ (fallbackSource fallback ++ '\x7d' :: rest))) =
      .placeholder name fallback := by
  cases name with
  | nil => cases hname
  | cons c more =>
      obtain ⟨hstart, hmore⟩ := Bool.and_eq_true_iff.mp hname
      have hrun := List.all_eq_true.mp hmore
      have hstop := isNameChar_head_fallbackSource fallback rest
      have hfallback := fallback?_eq_some_iff.mpr ⟨hfree, rest, rfl⟩
      simp only [List.cons_append, atDollar, hstart, if_true, Text.dropWhile_append_stop hrun hstop,
        Text.takeWhile_append_stop hrun hstop, hfallback]

/-- A construct at the start of a template is its first segment. -/
theorem first_of_begins {s : Segment} {c : Char} {cs : List Char} (h : s.Begins (c :: cs)) :
    first c cs = s := by
  obtain ⟨hconstruct, hvalid, rest, hrest⟩ := h
  cases s with
  | literal d => cases hconstruct
  | dollar =>
      cases hrest
      rfl
  | placeholder name fallback =>
      obtain ⟨hname, hfree⟩ := hvalid
      obtain ⟨rfl, hcs⟩ := List.cons.inj hrest
      rw [first, if_pos rfl, ← hcs]
      simpa using atDollar_append hname hfree rest

/-- The first segment is a construct at the start of the template, or the first character. -/
theorem first_cases (c : Char) (cs : List Char) :
    (first c cs).Begins (c :: cs) ∨ first c cs = .literal c := by
  unfold first
  split
  · next hdollar =>
    subst hdollar
    unfold atDollar
    split
    · exact .inl ⟨rfl, trivial, List.prefix_append ['$', '$'] _⟩
    · next d rest =>
      split
      · next hstart =>
        split
        · next fallback hfallback =>
          obtain ⟨hfree, after, hafter⟩ := fallback?_eq_some_iff.mp hfallback
          have hname : isName (d :: rest.takeWhile isNameChar) = true := by
            simp [isName, hstart]
          have hrest : rest =
              rest.takeWhile isNameChar ++ fallbackSource fallback ++ '\x7d' :: after := by
            rw [List.append_assoc, ← hafter, List.takeWhile_append_dropWhile]
          refine .inl ⟨rfl, ⟨hname, hfree⟩, after, ?_⟩
          conv => rhs; rw [hrest]
          simp [source]
        · exact .inr rfl
      · exact .inr rfl
    · exact .inr rfl
  · exact .inr rfl

/-! ## all segments -/

theorem source_ne_nil (s : Segment) : s.source ≠ [] := by cases s <;> simp [source]

/-- What is behind a segment is left when its characters are dropped. -/
theorem drop_of_source {s : Segment} {c : Char} {cs rest : List Char}
    (h : s.source ++ rest = c :: cs) : cs.drop (s.source.length - 1) = rest := by
  have hlen : s.source.length - 1 + 1 = s.source.length :=
    Nat.sub_add_cancel (List.length_pos_iff.2 (source_ne_nil _))
  rw [← List.drop_succ_cons (a := c), hlen, ← h, List.drop_left]

/-- The first segment stands at the start of the template. -/
theorem source_first_append (c : Char) (cs : List Char) :
    (first c cs).source ++ cs.drop ((first c cs).source.length - 1) = c :: cs := by
  rcases first_cases c cs with ⟨-, -, rest, h⟩ | h
  · rw [drop_of_source h, h]
  · rw [h]
    rfl

theorem segmentsAfter_eq_drop (skip : Nat) (cs : List Char) :
    segmentsAfter skip cs = segments (cs.drop skip) := by
  induction cs generalizing skip with
  | nil => cases skip <;> rfl
  | cons c cs ih =>
      cases skip with
      | zero => rfl
      | succ skip => exact ih skip

/-- Behind its first segment a template is cut as if it began there. -/
theorem segments_cons (c : Char) (cs : List Char) :
    segments (c :: cs) =
      first c cs :: segments (cs.drop ((first c cs).source.length - 1)) := by
  rw [segments, segmentsAfter, segmentsAfter_eq_drop]

/-- A construct at the start of a template is cut off, whatever follows it. -/
theorem segments_append {s : Segment} (hconstruct : s.isConstruct = true) (hvalid : s.Valid)
    (rest : List Char) : segments (s.source ++ rest) = s :: segments rest := by
  obtain ⟨c, more, hsource⟩ := List.exists_cons_of_ne_nil s.source_ne_nil
  have hcs : s.source ++ rest = c :: (more ++ rest) := by rw [hsource, List.cons_append]
  have hfirst : first c (more ++ rest) = s := first_of_begins ⟨hconstruct, hvalid, rest, hcs⟩
  rw [hcs, segments_cons, hfirst, drop_of_source hcs]

/-- Where no construct begins, a template is cut behind its first character. -/
theorem segments_cons_of_not_begins {c : Char} {cs : List Char}
    (h : ∀ s : Segment, ¬ s.Begins (c :: cs)) : segments (c :: cs) = .literal c :: segments cs := by
  have hfirst : first c cs = .literal c := (first_cases c cs).resolve_left (h _)
  rw [segments_cons, hfirst]
  rfl

theorem flatMap_source_segmentsAfter (skip : Nat) (cs : List Char) :
    (segmentsAfter skip cs).flatMap source = cs.drop skip := by
  induction cs generalizing skip with
  | nil => cases skip <;> simp [segmentsAfter]
  | cons c cs ih =>
    cases skip with
    | succ skip => simp [segmentsAfter, ih]
    | zero => rw [segmentsAfter, List.flatMap_cons, ih, source_first_append, List.drop_zero]

/-- The segments of a template put together are the template. -/
theorem flatMap_source_segments (template : List Char) :
    (segments template).flatMap source = template := by
  simp [segments, flatMap_source_segmentsAfter]

end Segment

/-- The text of a template, its variables put in. -/
def interpolate (template : String) (vars : Variables) : Except Unset String :=
  (Segment.expandAll vars (Segment.segments template.toList)).map String.ofList

end ControlPlane
