import ControlPlane.Proofs.Parsing
import ControlPlane.Yaml.Content

/-!
# Nodes that are not written like their types

A document has no value if some node of it has none.  Collections have theirs as soon as their parts
do, so apart from what is malformed every fault is that of a scalar node, whose text is not written
like its type (`Document.explains_of_value`).

The fault is found by going through steps, and the steps come from the nodes.  So it is enough that
steps lead to nothing but faults of some kind (`Step.Only`), which is shown for one node from its
parts.
-/

namespace ControlPlane.Yaml

/-! ## faults of steps -/

namespace Step

mutual
/-- All faults that a step can lead to by itself meet a condition. -/
def Only (P : Fault → Prop) : Step → Prop
  | .fault f => P f
  | .content _ steps => OnlyAll P steps
  | _ => True
/-- All faults that steps can lead to by themselves meet a condition. -/
def OnlyAll (P : Fault → Prop) : List Step → Prop
  | [] => True
  | s :: ss => s.Only P ∧ OnlyAll P ss
end

variable {P : Fault → Prop}

theorem onlyAll_iff {steps : List Step} : OnlyAll P steps ↔ ∀ s ∈ steps, s.Only P := by
  induction steps with
  | nil => simp [OnlyAll]
  | cons s ss ih => simp [OnlyAll, ih]

theorem onlyAll_append {steps more : List Step} (h : OnlyAll P steps) (hmore : OnlyAll P more) :
    OnlyAll P (steps ++ more) := by
  rw [onlyAll_iff] at *
  intro s hs
  rcases List.mem_append.mp hs with hs | hs
  · exact h s hs
  · exact hmore s hs

theorem onlyAll_flatMap {α : Type} {xs : List α} {steps : α → List Step}
    (h : ∀ x ∈ xs, OnlyAll P (steps x)) : OnlyAll P (xs.flatMap steps) := by
  rw [onlyAll_iff]
  intro s hs
  obtain ⟨x, hx, hs⟩ := List.mem_flatMap.mp hs
  exact onlyAll_iff.mp (h x hx) s hs

/-- The fault that counts is one that the steps lead to, or a malformed text. -/
theorem firstFault?_of_only {known : Nat → List Step} (hmalformed : P .malformed)
    (hknown : ∀ i, OnlyAll P (known i)) {fuel : Nat} {settled seen : List Nat}
    {later : List (List Step)} {steps : List Step} (hlater : ∀ ss ∈ later, OnlyAll P ss)
    (hsteps : OnlyAll P steps) {f : Fault}
    (h : firstFault? known fuel settled seen later steps = some f) : P f := by
  induction fuel generalizing settled seen later steps with
  | zero => cases h
  | succ fuel ih =>
      cases steps with
      | nil =>
          rw [firstFault?] at h
          split at h
          · cases h
          · refine ih (by simp) ?_ h
            rw [← List.flatMap_id]
            exact onlyAll_flatMap fun ss hss => hlater ss (List.mem_reverse.mp hss)
      | cons step rest =>
          obtain ⟨hstep, hrest⟩ := hsteps
          cases step with
          | fault g =>
              simp only [firstFault?, Option.some.injEq] at h
              exact h ▸ hstep
          | settles nodes => exact ih hlater hrest h
          | needs node =>
              simp only [firstFault?] at h
              split at h
              · exact ih hlater hrest h
              · cases h
                exact hmalformed
          | reads node keys =>
              simp only [firstFault?] at h
              split at h
              · exact ih hlater hrest h
              · split at h
                · cases h
                  exact hmalformed
                · exact ih hlater hrest h
          | content node inner =>
              simp only [firstFault?] at h
              split at h
              · exact ih hlater hrest h
              · refine ih ?_ hrest h
                intro ss hss
                rcases List.mem_cons.mp hss with rfl | hss
                · exact hstep
                · exact hlater ss hss
          | «alias» node =>
              simp only [firstFault?] at h
              split at h
              · exact ih hlater hrest h
              · exact ih hlater (onlyAll_append (hknown node) hrest) h

end Step

/-! ## results -/

section Meets

variable {α β : Type} {A : α → Prop} {B : β → Prop} {E : Fault → Prop}

theorem Meets.bind {x : Except Fault α} {k : α → Except Fault β} (hx : Meets A E x)
    (hk : ∀ a, A a → Meets B E (k a)) : Meets B E (x >>= k) := by
  cases x with
  | error f => exact hx
  | ok a => exact hk a hx

theorem Meets.map {x : Except Fault α} {g : α → β} (hx : Meets A E x) (hg : ∀ a, A a → B (g a)) :
    Meets B E (x.map g) := by
  cases x with
  | error f => exact hx
  | ok a => exact hg a hx

theorem meets_mapM {g : α → Except Fault β} {xs : List α} (h : ∀ x ∈ xs, Meets B E (g x)) :
    Meets (fun ys => ∀ y ∈ ys, B y) E (xs.mapM g) := by
  induction xs with
  | nil => simp [Meets, pure, Except.pure]
  | cons x xs ih =>
      have hrest := ih fun y hy => h y (List.mem_cons_of_mem x hy)
      rw [List.mapM_cons]
      refine (h x List.mem_cons_self).bind fun y hy => hrest.bind fun ys hys => ?_
      exact List.forall_mem_cons.mpr ⟨hy, hys⟩

end Meets

/-! ## nodes of a document -/

/-- Whether a tag is one of scalars. -/
def Tag.isOfScalars : Tag → Bool
  | .text | .int | .float | .bool | .null | .timestamp | .binary | .value => true
  | .list | .map | .orderedMap | .pairs | .set | .merge | .other _ => false

namespace Document

/-- The nodes of a document, with the one that stands for nothing. -/
inductive Has (d : Document) : Node → Prop where
  | root : d.Has d.root
  | anchored {n : Node} (h : n ∈ d.anchored) : d.Has n
  | empty : d.Has .empty
  | item {i : Nat} {tag : Tag} {items : List Node} (h : d.Has (.list i tag items)) {n : Node}
      (hn : n ∈ items) : d.Has n
  | key {i : Nat} {tag : Tag} {entries : List (Node × Node)} (h : d.Has (.map i tag entries))
      {e : Node × Node} (he : e ∈ entries) : d.Has e.1
  | entry {i : Nat} {tag : Tag} {entries : List (Node × Node)} (h : d.Has (.map i tag entries))
      {e : Node × Node} (he : e ∈ entries) : d.Has e.2

/-- A node is to be a scalar, and there is no text for it or none that is written like its type. -/
def Mistypes (d : Document) (n : Node) (f : Fault) : Prop :=
  ∃ tag, n.tag? = some tag ∧ tag.isOfScalars = true ∧
    ((d.scalarText d.size n).2 = .error f ∨
      ∃ text, (d.scalarText d.size n).2 = .ok text ∧ n.typed tag text = .error f)

variable {d : Document}

theorem Has.resolve {n : Node} (h : d.Has n) : d.Has (d.resolve n) := by
  unfold Document.resolve
  split
  · next i =>
    cases hfind : d.anchored.find? fun n => n.serial == i with
    | none => exact .empty
    | some n => exact .anchored (List.mem_of_find?_eq_some hfind)
  · exact h

/-! ## keys -/

/-- A key is read as it is, or as a text where it would stand for a value. -/
theorem asKey_cases (d : Document) (n : Node) :
    d.asKey n = n ∨ (d.asKey n).tag? = some .text ∧ (d.resolve n).tag? = some .value ∧
      ∀ fuel, (d.scalarText fuel (d.asKey n)).2 = (d.scalarText fuel (d.resolve n)).2 := by
  unfold asKey
  split
  · next i text hn =>
    rw [hn]
    exact .inr ⟨rfl, rfl, fun fuel => by cases fuel <;> rfl⟩
  · next i items hn =>
    rw [hn]
    exact .inr ⟨rfl, rfl, fun fuel => by cases fuel <;> rfl⟩
  · next i entries hn =>
    rw [hn]
    exact .inr ⟨rfl, rfl, fun fuel => by cases fuel <;> rfl⟩
  · exact .inl rfl

/-- The nodes of a document as they are read, be it as keys. -/
def Reads (d : Document) (n : Node) : Prop := d.Has n ∨ ∃ k, d.Has k ∧ n = d.asKey k

/-- What is read is a node of the document, or a text in the place of one. -/
theorem Reads.cases {n : Node} (h : d.Reads n) :
    d.Has n ∨ n.tag? = some .text ∧ ∃ m, d.Has m ∧ m.tag? = some .value ∧
      ∀ fuel, (d.scalarText fuel n).2 = (d.scalarText fuel m).2 := by
  rcases h with h | ⟨k, hk, rfl⟩
  · exact .inl h
  · rcases d.asKey_cases k with hsame | ⟨htext, hvalue, hsame⟩
    · rw [hsame]
      exact .inl hk
    · exact .inr ⟨htext, d.resolve k, hk.resolve, hvalue, hsame⟩

/-- The entries of a document as they are read. -/
def ReadsEntry (d : Document) (e : Node × Node) : Prop := d.Reads e.1 ∧ d.Reads e.2

theorem Has.mergedEntries {n : Node} (h : d.Has n) (fuel : Nat) (around : List Nat) :
    Meets (fun entries => ∀ e ∈ entries, d.ReadsEntry e) (· = .malformed)
      (d.mergedEntries fuel around n) := by
  induction fuel generalizing around n with
  | zero => simp [Document.mergedEntries, Meets]
  | succ fuel ih =>
      unfold Document.mergedEntries
      have hresolved := h.resolve
      split
      · next i tag entries hn =>
        rw [hn] at hresolved
        have hown : ∀ e ∈ (entries.filter fun e => !d.isMerge e).map fun e => (d.asKey e.1, e.2),
            d.ReadsEntry e := by
          intro e he
          obtain ⟨e', he', rfl⟩ := List.mem_map.mp he
          have hmem := List.mem_of_mem_filter he'
          have hvalue : d.Has e'.2 := hresolved.entry hmem
          exact ⟨.inr ⟨e'.1, hresolved.key hmem, rfl⟩, .inl hvalue⟩
        dsimp only
        split
        · exact hown
        · -- what is merged is read in the same way, and a list of mappings the last one first
          refine Meets.bind (meets_mapM (B := fun es => ∀ e ∈ es, d.ReadsEntry e) fun e he => ?_)
            fun merged hall => ?_
          · have hvalue := (hresolved.entry (List.mem_of_mem_filter he)).resolve
            split
            · next j tag' items hitems =>
              rw [hitems] at hvalue
              refine Meets.map (meets_mapM fun item hitem => ih (hvalue.item hitem) _) ?_
              intro each heach e he
              obtain ⟨es, hes, he⟩ := List.mem_flatten.mp he
              exact heach es (List.mem_reverse.mp hes) e he
            · exact ih hvalue _
          · intro e he
            rcases List.mem_append.mp he with he | he
            · obtain ⟨es, hes, he⟩ := List.mem_flatten.mp he
              exact hall es hes e he
            · exact hown e he
      · exact rfl

/-! ## building -/

/-- A fault has its place in a document: the document is malformed, or a node of it is mistyped. -/
def Explains (d : Document) (f : Fault) : Prop := f = .malformed ∨ ∃ n, d.Has n ∧ d.Mistypes n f

theorem explains_malformed : d.Explains .malformed := .inl rfl

section Parts

variable {P : Fault → Prop}

theorem onlyAll_failed {f : Fault} (hf : P f) : Step.OnlyAll P (Built.failed f).steps :=
  ⟨hf, trivial⟩

theorem onlyAll_hollow (n : Node) : Step.OnlyAll P (Built.hollow n).steps := by
  cases n <;> trivial

theorem onlyAll_broken {f : Fault} (hf : P f) (n : Node) :
    Step.OnlyAll P (Built.broken n f).steps := ⟨⟨hf, trivial⟩, trivial⟩

/-- A step in front of others, if it is there at all. -/
theorem onlyAll_after {c : Prop} [Decidable c] {s : Step} {b : Built} (hs : s.Only P)
    (hb : Step.OnlyAll P b.steps) : Step.OnlyAll P (if c then b else b.after s).steps := by
  split
  · exact hb
  · exact ⟨hs, hb⟩

theorem onlyAll_buildScalar {tag : Tag} {n : Node}
    (htext : ∀ f, (d.scalarText d.size n).2 = .error f → P f)
    (htyped : ∀ text f, (d.scalarText d.size n).2 = .ok text → n.typed tag text = .error f → P f) :
    Step.OnlyAll P (d.buildScalar tag n).steps := by
  unfold buildScalar
  dsimp only
  refine onlyAll_after trivial ?_
  split
  · next f hf => exact onlyAll_failed (htext f hf)
  · next text hok =>
    split
    · next f hf => exact onlyAll_failed (htyped text f hok hf)
    · trivial

variable {build : Node → Built}

theorem onlyAll_buildList (hmalformed : P .malformed) {n : Node}
    (hitem : ∀ i tag items, n = .list i tag items → ∀ item ∈ items,
      Step.OnlyAll P (build item).steps) :
    Step.OnlyAll P (buildList build n).steps := by
  unfold buildList
  split
  · next i tag items =>
    refine ⟨?_, trivial⟩
    refine Step.onlyAll_flatMap fun b hb => ?_
    obtain ⟨item, hmem, rfl⟩ := List.mem_map.mp hb
    exact hitem i tag items rfl item hmem
  · exact onlyAll_broken hmalformed n

theorem onlyAll_entry (hmalformed : P .malformed) {k v : Built} (hk : Step.OnlyAll P k.steps)
    (hv : Step.OnlyAll P v.steps) : Step.OnlyAll P (BuiltEntry.of k v).steps := by
  unfold BuiltEntry.of
  split
  · exact Step.onlyAll_append hk hv
  · exact Step.onlyAll_append hk ⟨hmalformed, trivial⟩

theorem onlyAll_buildEntries (hmalformed : P .malformed) {n : Node} (h : d.Has n)
    (hbuild : ∀ m, d.Reads m → Step.OnlyAll P (build m).steps)
    (whole : List (Scalar × Value) → Value) :
    Step.OnlyAll P (d.buildEntries build whole n).steps := by
  have hmerged := h.mergedEntries d.size []
  unfold buildEntries
  split
  · next f hf =>
    rw [hf] at hmerged
    obtain rfl : f = .malformed := hmerged
    exact onlyAll_broken hmalformed n
  · next entries hentries =>
    rw [hentries] at hmerged
    refine ⟨Step.onlyAll_append ?_ (Step.onlyAll_flatMap fun b hb => ?_), trivial⟩
    · split
      · trivial
      · exact ⟨trivial, trivial⟩
    · obtain ⟨e, he, rfl⟩ := List.mem_map.mp hb
      obtain ⟨hkey, hvalue⟩ := hmerged e he
      exact onlyAll_entry hmalformed (hbuild _ hkey) (hbuild _ hvalue)

theorem Has.readsEntry {n : Node} (h : d.Has n) {e : Node × Node} {step : Option Step}
    (he : d.onlyEntry? n = some (e, step)) :
    d.ReadsEntry e ∧ Step.OnlyAll P step.toList := by
  have hresolved := h.resolve
  have hmerged := h.mergedEntries d.size []
  unfold Document.onlyEntry? at he
  split at he
  · next i tag entries hn =>
    split at he
    · split at he
      · next e' hentries =>
        cases he
        rw [hentries] at hmerged
        exact ⟨hmerged e List.mem_cons_self, trivial, trivial⟩
      · cases he
    · split at he
      · next e' hentries =>
        cases he
        rw [hn] at hresolved
        have hkey : d.Has e.1 := hresolved.key List.mem_cons_self
        have hvalue : d.Has e.2 := hresolved.entry List.mem_cons_self
        exact ⟨⟨.inl hkey, .inl hvalue⟩, trivial⟩
      · cases he
  · cases he

theorem onlyAll_buildPairs (hmalformed : P .malformed) {n : Node} (h : d.Has n)
    (hbuild : ∀ m, d.Reads m → Step.OnlyAll P (build m).steps) :
    Step.OnlyAll P (d.buildPairs build n).steps := by
  unfold buildPairs
  split
  · next i tag items =>
    refine ⟨Step.onlyAll_flatMap fun p hp => ?_, trivial⟩
    obtain ⟨item, hitem, rfl⟩ := List.mem_map.mp hp
    cases honly : d.onlyEntry? item with
    | none => exact ⟨hmalformed, trivial⟩
    | some found =>
        obtain ⟨e, step⟩ := found
        obtain ⟨⟨hkey, hvalue⟩, hstep⟩ := (h.item hitem).readsEntry (P := P) honly
        exact Step.onlyAll_append (Step.onlyAll_append hstep (hbuild _ hkey)) (hbuild _ hvalue)
  · exact onlyAll_broken hmalformed n

end Parts

/-- A node of scalars leads to the faults of its text. -/
theorem Has.onlyAll_buildScalar {tag : Tag} {n : Node} (h : d.Has n) (htag : n.tag? = some tag)
    (hscalar : tag.isOfScalars = true) : Step.OnlyAll d.Explains (d.buildScalar tag n).steps := by
  apply Document.onlyAll_buildScalar
  · intro f hf
    exact .inr ⟨n, h, tag, htag, hscalar, .inl hf⟩
  · intro text f htext hf
    exact .inr ⟨n, h, tag, htag, hscalar, .inr ⟨text, htext, hf⟩⟩

/-- A node that is read as a text leads to the fault that there is none to be read. -/
theorem onlyAll_buildScalar_text {n m : Node} (h : d.Has m) (htag : m.tag? = some .value)
    (hsame : (d.scalarText d.size n).2 = (d.scalarText d.size m).2) :
    Step.OnlyAll d.Explains (d.buildScalar .text n).steps := by
  apply onlyAll_buildScalar
  · intro f hf
    rw [hsame] at hf
    exact .inr ⟨m, h, .value, htag, rfl, .inl hf⟩
  · intro text f htext hf
    cases n <;> cases hf

/-- Whatever is read, its steps lead to faults that have their place in the document. -/
theorem Reads.onlyAll_build {known : List (Nat × Built)} {fuel : Nat} {around : List Nat} {n : Node}
    (h : d.Reads n) : Step.OnlyAll d.Explains (d.build known fuel around n).steps := by
  induction fuel generalizing around n with
  | zero => exact onlyAll_hollow n
  | succ fuel ih =>
      have hpart (m : Node) (hm : d.Reads m) :
          Step.OnlyAll d.Explains (d.build known fuel (n.serial :: around) m).steps := ih hm
      unfold build
      dsimp only
      split
      · exact ⟨trivial, trivial⟩
      · next tag htag =>
        split
        · exact onlyAll_hollow n
        · rcases h.cases with h | ⟨htext, m, hm, hvalue, hsame⟩
          · cases tag
            case merge => exact onlyAll_failed explains_malformed
            case other => exact onlyAll_failed explains_malformed
            case value => exact ⟨trivial, onlyAll_buildScalar_text h htag rfl⟩
            case list =>
              refine onlyAll_buildList explains_malformed ?_
              rintro i tag items rfl item hitem
              exact hpart item (.inl (h.item hitem))
            case map => exact onlyAll_buildEntries explains_malformed h hpart _
            case set => exact onlyAll_buildEntries explains_malformed h hpart _
            case orderedMap => exact onlyAll_buildPairs explains_malformed h hpart
            case pairs => exact onlyAll_buildPairs explains_malformed h hpart
            all_goals exact h.onlyAll_buildScalar htag rfl
          · rw [htext] at htag
            cases htag
            exact onlyAll_buildScalar_text hm hvalue (hsame d.size)

/-! ## documents -/

/-- The steps of a node are those of one of the nodes that were built, or none. -/
theorem onlyAll_known {P : Fault → Prop} {known : List (Nat × Built)}
    (h : ∀ e ∈ known, Step.OnlyAll P e.2.steps) (i : Nat) :
    Step.OnlyAll P (((known.find? fun e => e.1 == i).map (·.2.steps)).getD []) := by
  cases hfind : known.find? fun e => e.1 == i with
  | none => trivial
  | some e => exact h e (List.mem_of_find?_eq_some hfind)

theorem onlyAll_buildAnchored {known : List (Nat × Built)}
    (h : ∀ e ∈ known, Step.OnlyAll d.Explains e.2.steps) :
    ∀ e ∈ d.buildAnchored known, Step.OnlyAll d.Explains e.2.steps := by
  have hfold (ns : List Node) (hns : ∀ n ∈ ns, d.Has n) :
      ∀ e ∈ ns.foldl (fun known n => (n.serial, d.build known d.size [] n) :: known) known,
        Step.OnlyAll d.Explains e.2.steps := by
    induction ns generalizing known with
    | nil => exact h
    | cons n ns ih =>
        refine ih ?_ fun m hm => hns m (List.mem_cons_of_mem n hm)
        intro e he
        rcases List.mem_cons.mp he with rfl | he
        · exact Reads.onlyAll_build (.inl (hns n List.mem_cons_self))
        · exact h e he
  exact hfold d.anchored fun n hn => .anchored hn

/-- A document that has no value is malformed, or a node of it is mistyped. -/
theorem explains_of_value {f : Fault} (h : d.value = .error f) : d.Explains f := by
  have hhollow : ∀ e ∈ d.anchored.map fun n => (n.serial, Built.hollow n),
      Step.OnlyAll d.Explains e.2.steps := by
    intro e he
    obtain ⟨n, -, rfl⟩ := List.mem_map.mp he
    exact onlyAll_hollow n
  have hknown := onlyAll_known (onlyAll_buildAnchored (onlyAll_buildAnchored hhollow))
  have hroot {known : List (Nat × Built)} :
      Step.OnlyAll d.Explains (d.build known d.size [] d.root).steps :=
    Reads.onlyAll_build (.inl .root)
  unfold value at h
  dsimp only at h
  split at h
  · next g hfirst =>
    cases h
    exact Step.firstFault?_of_only explains_malformed hknown (by simp) hroot hfirst
  · cases h

end Document

/-! ## main results -/

/-- A text is not written like the types of its parts: a token or a node of it tells the fault. -/
def Mistypes (text : String) (f : Fault) : Prop :=
  .fault f ∈ tokens text.toList ∨
    ∃ d n, document? text.toList = .ok (some d) ∧ d.Has n ∧ d.Mistypes n f

/-- A text that has no value is malformed or mistyped. -/
theorem fault_of_load {text : String} {f : Fault} (h : load text = .error f) :
    f = .malformed ∨ Mistypes text f := by
  unfold load at h
  split at h
  · cases hdocument : document? text.toList with
    | error g =>
        rw [hdocument] at h
        cases h
        rcases fault_of_document? hdocument with hf | hf
        · exact .inl hf
        · exact .inr (.inl hf)
    | ok d? => cases d? with
      | none =>
          rw [hdocument] at h
          cases h
      | some d =>
          rw [hdocument] at h
          rcases Document.explains_of_value h with hf | ⟨n, hn, hf⟩
          · exact .inl hf
          · exact .inr (.inr ⟨d, n, hdocument, hn, hf⟩)
  · cases h
    exact .inl rfl

end ControlPlane.Yaml
