import ControlPlane.Yaml.Document
import Mathlib.Data.List.Basic

/-!
# Faults of documents

Reading nodes finds nothing wrong with tokens but their order.  So a text that is no document is
malformed, or its tokens end in the fault (`fault_of_document?`).

All steps of reading are put together from a few that touch the tokens, and what these keep is kept
by all of them (`Read.Keeps`).
-/

namespace ControlPlane.Yaml

/-- The value meets a condition if there is one, and the fault another if there is none. -/
def Meets {α : Type} (good : α → Prop) (bad : Fault → Prop) : Except Fault α → Prop
  | .ok a => good a
  | .error f => bad f

namespace Read

variable {α β : Type} {ts : List Token}

/-- A step from some tokens leaves some of them; if it fails, the text is malformed or one of them
tells the fault. -/
def Keeps (ts : List Token) (x : Read α) : Prop :=
  ∀ r, r.tokens ⊆ ts →
    Meets (fun p => p.2.tokens ⊆ ts) (fun f => f = .malformed ∨ .fault f ∈ ts) (x.run r)

/-! ## steps -/

theorem keeps_pure (a : α) : Keeps ts (pure a : Read α) := fun _ hr => hr

theorem Keeps.bind {x : Read α} {k : α → Read β} (hx : Keeps ts x) (hk : ∀ a, Keeps ts (k a)) :
    Keeps ts (x >>= k) := by
  intro r hr
  have hrun := hx r hr
  rw [StateT.run_bind]
  cases hstep : x.run r with
  | error f =>
      rw [hstep] at hrun
      exact hrun
  | ok p =>
      rw [hstep] at hrun
      exact hk p.1 p.2 hrun

theorem keeps_fail : Keeps ts (fail .malformed : Read α) := fun _ _ => .inl rfl

theorem keeps_get : Keeps ts (get : Read Reader) := fun _ hr => hr

theorem keeps_modify {g : Reader → Reader} (hg : ∀ r, (g r).tokens = r.tokens) :
    Keeps ts (modify g : Read Unit) := by
  intro r hr
  show (g r).tokens ⊆ ts
  rw [hg]
  exact hr

theorem Keeps.afterModify {g : Reader → Reader} {k : Unit → Read β}
    (hg : ∀ r, (g r).tokens = r.tokens) (hk : ∀ a, Keeps ts (k a)) :
    Keeps ts (modify g >>= k) :=
  (keeps_modify hg).bind hk

theorem keeps_peek : Keeps ts peek := by
  intro r hr
  unfold peek
  rw [StateT.run_bind]
  simp only [StateT.run_get, pure_bind]
  split
  · exact .inl rfl
  · next f rest htokens =>
      rw [htokens] at hr
      exact .inr (hr List.mem_cons_self)
  · exact hr

theorem keeps_skip : Keeps ts skip := fun r hr =>
  List.Subset.trans (List.tail_sublist r.tokens).subset hr

theorem keeps_skipIf (t : Token) : Keeps ts (skipIf t) := by
  refine keeps_peek.bind fun next => ?_
  split
  · exact keeps_skip.bind fun _ => keeps_pure true
  · exact keeps_pure false

theorem keeps_expect (t : Token) : Keeps ts (expect t) := by
  refine (keeps_skipIf t).bind fun found => ?_
  split
  · exact keeps_pure ()
  · exact keeps_fail

theorem Keeps.orEmpty (marks : List Token) {x : Read Node} (hx : Keeps ts x) :
    Keeps ts (orEmpty marks x) := by
  have hmark : Keeps ts (atOneOf marks) := keeps_peek.bind fun _ => keeps_pure _
  refine hmark.bind fun leftOut => ?_
  split
  · exact keeps_pure Node.empty
  · exact hx

theorem Keeps.valueUnless (marks : List Token) {x : Read Node} (hx : Keeps ts x) :
    Keeps ts (valueUnless marks x) := by
  refine (keeps_skipIf .value).bind fun found => ?_
  split
  · exact hx.orEmpty marks
  · exact keeps_pure Node.empty

theorem keeps_comma (first : Bool) : Keeps ts (comma first) := by
  unfold comma
  split
  · exact keeps_expect .flowEntry
  · exact keeps_pure ()

/-! ## properties of nodes -/

theorem keeps_aliased (name : List Char) : Keeps ts (aliased name) := by
  refine keeps_get.bind fun r => ?_
  split
  · exact keeps_pure _
  · exact keeps_fail

theorem keeps_anchor? : Keeps ts anchor? := by
  refine keeps_peek.bind fun t => ?_
  split
  · exact keeps_skip.bind fun _ => keeps_pure _
  · exact keeps_pure none

theorem keeps_tag? : Keeps ts tag? := by
  refine keeps_peek.bind fun t => ?_
  split
  · exact keeps_skip.bind fun _ => keeps_pure _
  · exact keeps_pure none

theorem keeps_fullTag (handle : Option (List Char)) (suffix : List Char) :
    Keeps ts (fullTag handle suffix) := by
  unfold fullTag
  split
  · exact keeps_pure suffix
  · refine keeps_get.bind fun r => ?_
    split
    · exact keeps_pure _
    · exact keeps_fail

theorem keeps_properties : Keeps ts properties := by
  have hrest (written : Option (Option (List Char) × List Char)) (anchor : Option (List Char)) :
      Keeps ts (do
        let tag ← written.mapM fun t => fullTag t.1 t.2
        return ({ anchor, tag } : Properties)) := by
    refine Keeps.bind ?_ fun tag => keeps_pure _
    cases written with
    | none => exact keeps_pure none
    | some t => exact (keeps_fullTag t.1 t.2).bind fun _ => keeps_pure _
  refine keeps_anchor?.bind fun first => keeps_tag?.bind fun written => ?_
  dsimp only
  split
  · exact keeps_anchor?.bind (hrest written)
  · exact (keeps_pure first).bind (hrest written)

theorem keeps_numbered (p : Properties) {content : Nat → Read Node}
    (h : ∀ i, Keeps ts (content i)) : Keeps ts (numbered p content) := by
  refine keeps_get.bind fun r => .afterModify (fun _ => rfl) fun _ => ?_
  split
  · exact h _
  · refine keeps_get.bind fun r' => ?_
    dsimp only
    split
    · exact keeps_fail.bind fun _ => .afterModify (fun _ => rfl) fun _ =>
        (h _).bind fun n => .afterModify (fun _ => rfl) fun _ => keeps_pure n
    · exact .afterModify (fun _ => rfl) fun _ =>
        (h _).bind fun n => .afterModify (fun _ => rfl) fun _ => keeps_pure n

/-! ## nodes -/

theorem keeps_scalar (p : Properties) (plain : Bool) (text : List Char) :
    Keeps ts (scalar p plain text) :=
  keeps_numbered p fun _ => keeps_pure _

theorem Keeps.listOf (p : Properties) {items : Read (List Node)} (h : Keeps ts items) :
    Keeps ts (listOf p items) :=
  keeps_numbered p fun _ => h.bind fun _ => keeps_pure _

theorem Keeps.mapOf (p : Properties) {entries : Read (List (Node × Node))} (h : Keeps ts entries) :
    Keeps ts (mapOf p entries) :=
  keeps_numbered p fun _ => h.bind fun _ => keeps_pure _

/- Nodes and their parts are read by each other, so their steps keep tokens by one recursion on the
fuel that all of them share. -/

mutual

theorem keeps_node : (fuel : Nat) → (position : Position) → Keeps ts (node fuel position)
  | 0, _ => keeps_fail
  | fuel + 1, position => by
      refine keeps_peek.bind fun next => ?_
      split
      · exact keeps_skip.bind fun _ => keeps_aliased _
      · -- behind its properties the next token tells what kind of node it is
        refine keeps_properties.bind fun p => keeps_peek.bind fun t => ?_
        split
        · exact keeps_skip.bind fun _ => keeps_scalar p _ _
        · exact keeps_skip.bind fun _ => (keeps_flowItems fuel true).listOf p
        · exact keeps_skip.bind fun _ => (keeps_flowEntries fuel true).mapOf p
        · split
          · exact (keeps_plainItems fuel).listOf p
          · split
            · exact keeps_skip.bind fun _ => (keeps_blockItems fuel).listOf p
            · split
              · exact keeps_skip.bind fun _ => (keeps_blockEntries fuel).mapOf p
              · split
                · exact keeps_scalar p true []
                · exact keeps_fail

theorem keeps_blockItems : (fuel : Nat) → Keeps ts (blockItems fuel)
  | 0 => keeps_fail
  | fuel + 1 => by
      refine (keeps_skipIf .blockEntry).bind fun found => ?_
      split
      · exact ((keeps_node fuel .block).orEmpty _).bind fun _ =>
          (keeps_blockItems fuel).bind fun _ => keeps_pure _
      · exact (keeps_expect .blockEnd).bind fun _ => keeps_pure []

theorem keeps_plainItems : (fuel : Nat) → Keeps ts (plainItems fuel)
  | 0 => keeps_fail
  | fuel + 1 => by
      refine (keeps_skipIf .blockEntry).bind fun found => ?_
      split
      · exact ((keeps_node fuel .block).orEmpty _).bind fun _ =>
          (keeps_plainItems fuel).bind fun _ => keeps_pure _
      · exact keeps_pure []

theorem keeps_blockEntries : (fuel : Nat) → Keeps ts (blockEntries fuel)
  | 0 => keeps_fail
  | fuel + 1 => by
      refine (keeps_skipIf .key).bind fun found => ?_
      split
      · exact ((keeps_node fuel .entry).orEmpty _).bind fun _ =>
          ((keeps_node fuel .entry).valueUnless _).bind fun _ =>
          (keeps_blockEntries fuel).bind fun _ => keeps_pure _
      · exact (keeps_expect .blockEnd).bind fun _ => keeps_pure []

theorem keeps_flowItems : (fuel : Nat) → (first : Bool) → Keeps ts (flowItems fuel first)
  | 0, _ => keeps_fail
  | fuel + 1, first => by
      have hentry (marks marks' : List Token) : Keeps ts (do
          let key ← orEmpty marks (node fuel .flow)
          let value ← valueUnless marks' (node fuel .flow)
          return [(key, value)]) :=
        ((keeps_node fuel .flow).orEmpty marks).bind fun _ =>
          ((keeps_node fuel .flow).valueUnless marks').bind fun _ => keeps_pure _
      have hrest (item : Node) : Keeps ts (do return item :: (← flowItems fuel false)) :=
        (keeps_flowItems fuel false).bind fun _ => keeps_pure _
      refine (keeps_skipIf .flowSequenceEnd).bind fun ended => ?_
      split
      · exact keeps_pure []
      · refine (keeps_comma first).bind fun _ =>
          (keeps_skipIf .flowSequenceEnd).bind fun ended => ?_
        split
        · exact keeps_pure []
        · refine (keeps_skipIf .key).bind fun keyed => ?_
          dsimp only
          split
          · exact ((hentry _ _).mapOf {}).bind hrest
          · exact (keeps_node fuel .flow).bind hrest

theorem keeps_flowEntries : (fuel : Nat) → (first : Bool) → Keeps ts (flowEntries fuel first)
  | 0, _ => keeps_fail
  | fuel + 1, first => by
      have hrest (entry : Node × Node) : Keeps ts (do return entry :: (← flowEntries fuel false)) :=
        (keeps_flowEntries fuel false).bind fun _ => keeps_pure _
      refine (keeps_skipIf .flowMappingEnd).bind fun ended => ?_
      split
      · exact keeps_pure []
      · refine (keeps_comma first).bind fun _ =>
          (keeps_skipIf .flowMappingEnd).bind fun ended => ?_
        split
        · exact keeps_pure []
        · refine (keeps_skipIf .key).bind fun keyed => ?_
          dsimp only
          split
          · exact ((keeps_node fuel .flow).orEmpty _).bind fun _ =>
              ((keeps_node fuel .flow).valueUnless _).bind fun _ => hrest _
          · exact (keeps_node fuel .flow).bind fun _ => hrest _

end

/-! ## documents -/

theorem keeps_directives (fuel : Nat) (versioned : Bool) : Keeps ts (directives fuel versioned) := by
  induction fuel generalizing versioned with
  | zero => exact keeps_fail
  | succ fuel ih =>
      refine keeps_peek.bind fun t => ?_
      split
      · refine keeps_skip.bind fun _ => ?_
        dsimp only
        split
        · exact keeps_fail.bind fun _ => ih true
        · exact ih true
      · refine keeps_skip.bind fun _ => keeps_get.bind fun r => ?_
        dsimp only
        split
        · exact keeps_fail.bind fun _ => .afterModify (fun _ => rfl) fun _ => ih versioned
        · exact .afterModify (fun _ => rfl) fun _ => ih versioned
      · exact keeps_skip.bind fun _ => ih versioned
      · exact keeps_modify fun _ => rfl

theorem keeps_skipEnds (fuel : Nat) : Keeps ts (skipEnds fuel) := by
  induction fuel with
  | zero => exact keeps_pure ()
  | succ fuel ih =>
      refine (keeps_skipIf .documentEnd).bind fun found => ?_
      split
      · exact ih
      · exact keeps_pure ()

theorem keeps_document (fuel : Nat) : Keeps ts (document fuel) := by
  have hended : Keeps ts (document.ended fuel) :=
    (keeps_skipEnds fuel).bind fun _ => keeps_expect .streamEnd
  have hrest (n : Node) : Keeps ts (do document.ended fuel; return some n) :=
    hended.bind fun _ => keeps_pure _
  have hexplicit : Keeps ts (document.explicit fuel) := by
    refine (keeps_directives fuel false).bind fun _ => (keeps_expect .documentStart).bind fun _ =>
      keeps_peek.bind fun t => ?_
    dsimp only
    split
    all_goals first
      | exact (keeps_pure Node.empty).bind hrest
      | exact (keeps_node fuel .block).bind hrest
  refine keeps_peek.bind fun t => ?_
  split
  · exact keeps_pure none
  · exact hexplicit
  · exact hexplicit
  · exact .afterModify (fun _ => rfl) fun _ => (keeps_node fuel .block).bind hrest

end Read

/-! ## main results -/

/-- A text that is no document is malformed, unless it is its tokens that tell the fault. -/
theorem fault_of_document? {text : List Char} {f : Fault} (h : document? text = .error f) :
    f = .malformed ∨ .fault f ∈ tokens text := by
  have hkeeps : Read.Keeps (tokens text) (Read.document (2 * (tokens text).length + 4)) :=
    Read.keeps_document _
  have hmeets := hkeeps { tokens := tokens text, handles := [] } (List.Subset.refl _)
  cases hrun : (Read.document (2 * (tokens text).length + 4)).run
      { tokens := tokens text, handles := [] } with
  | error g =>
      rw [hrun] at hmeets
      have hg : g = f := by simpa [document?, hrun, bind, Except.bind] using h
      exact hg ▸ hmeets
  | ok p => simp [document?, hrun, bind, Except.bind, pure, Except.pure] at h

end ControlPlane.Yaml
