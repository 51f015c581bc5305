import ControlPlane.Build.Pipeline

/-!
# How a build ends

The stages of a build work on one draft, whatever stages they are.  A stage hands that draft over
(`Pipeline.Hands`), or it ends the build in one of four ways (`Pipeline.Fails`).  So a build is a run
of stages that hand over (`Pipeline.Passes`), and then either the end or one stage that fails.

* `step_of_hands`, `step_of_fails` — one stage;
* `run_of_passes` — stages that hand over, by induction on them;
* `passes_or_fails` — there are no other runs;
* `build_first_failure` — whole builds: success needs all stages, the error is that of the first
  stage that fails, and no stage runs after it.
-/

namespace ControlPlane

namespace Pipeline

variable {p : Pipeline} {s : Settings} {name : StageName} {given? : Option Draft}

/-! ## one stage -/

/-- A stage hands over a draft: the first one there is, or the very one that it was given. -/
inductive Hands (p : Pipeline) (s : Settings) (name : StageName) : Option Draft → Draft → Prop
  | made {m : Manifest} (h : p name none s = .ok (.other (some m))) : Hands p s name none ⟨0, m⟩
  | back {d : Draft} {m : Manifest} (h : p name (some d.manifest) s = .ok (.same m)) :
      Hands p s name (some d) { d with manifest := m }

/-- How a stage ends a build.  A failure of a stage stays as it is, also if another stage is named;
another one of the library's own becomes the cause of a failure of the stage; one from elsewhere
stays as it is; and an object in the place of the given draft is a failure of the stage without a
cause. -/
inductive Fails (p : Pipeline) (s : Settings) (name : StageName) (given? : Option Draft) :
    Failure → Prop
  | ofStage {e : Failure} (h : p name (given?.map (·.manifest)) s = .error e)
      (he : e.isStageFailure = true) : Fails p s name given? e
  | ofLibrary {e : Failure} (h : p name (given?.map (·.manifest)) s = .error e)
      (he : e.isManifestFailure = true) (hstage : e.isStageFailure = false) :
      Fails p s name given? (.stageCaused name.text e)
  | fromElsewhere {e : Failure} (h : p name (given?.map (·.manifest)) s = .error e)
      (he : e.isManifestFailure = false) : Fails p s name given? e
  | foreign {m? : Option Manifest} (hgiven : given?.isSome = true)
      (h : p name (given?.map (·.manifest)) s = .ok (.other m?)) :
      Fails p s name given? (.stage name.text "stage returned a different manifest object")

theorem isManifestFailure_of_isStageFailure {e : Failure} (h : e.isStageFailure = true) :
    e.isManifestFailure = true := by
  cases e <;> first | rfl | cases h

theorem step_of_hands {d : Draft} (h : p.Hands s name given? d) :
    p.step s given? name = .ok (some d) := by
  cases h with
  | made h => simp [step, h, Handover.draft?]
  | back h => simp [step, h, Handover.draft?]

/-- A failure that a stage reports is wrapped according to its class. -/
theorem step_of_error {e : Failure} (h : p name (given?.map (·.manifest)) s = .error e) :
    p.step s given? name = .error (wrap name e) := by
  simp only [step, h]

/-- An object in the place of a draft has another number. -/
theorem step_of_other {d : Draft} {m? : Option Manifest}
    (h : p name (some d.manifest) s = .ok (.other m?)) :
    p.step s (some d) name =
      .error (.stage name.text "stage returned a different manifest object") := by
  cases m? <;> simp [step, h, Handover.draft?]

theorem step_of_fails {e : Failure} (h : p.Fails s name given? e) :
    p.step s given? name = .error e := by
  cases h with
  | ofStage h he => rw [step_of_error h, wrap, if_pos he]
  | ofLibrary h he hstage => rw [step_of_error h, wrap, hstage, he]; rfl
  | fromElsewhere h he =>
      have hstage : e.isStageFailure = false := by
        cases hs : e.isStageFailure with
        | false => rfl
        | true => rw [isManifestFailure_of_isStageFailure hs] at he; cases he
      rw [step_of_error h, wrap, hstage, he]
      rfl
  | foreign hgiven h =>
      cases given? with
      | none => cases hgiven
      | some d => exact step_of_other h

/-- Whatever a stage reports ends the build. -/
theorem exists_fails_of_error {e : Failure} (h : p name (given?.map (·.manifest)) s = .error e) :
    ∃ e', p.Fails s name given? e' := by
  cases hstage : e.isStageFailure with
  | true => exact ⟨e, .ofStage h hstage⟩
  | false =>
      cases hlibrary : e.isManifestFailure with
      | true => exact ⟨_, .ofLibrary h hlibrary hstage⟩
      | false => exact ⟨e, .fromElsewhere h hlibrary⟩

/-- A stage that is given a draft hands it over or ends the build. -/
theorem hands_or_fails (p : Pipeline) (s : Settings) (name : StageName) (d : Draft) :
    (∃ d', p.Hands s name (some d) d') ∨ ∃ e, p.Fails s name (some d) e := by
  cases h : p name (some d.manifest) s with
  | error e => exact .inr (exists_fails_of_error h)
  | ok handover =>
      cases handover with
      | same m => exact .inl ⟨_, .back h⟩
      | other m? => exact .inr ⟨_, .foreign rfl h⟩

/-! ## stages that hand over -/

/-- Stages that each hand over what the next one is given. -/
inductive Passes (p : Pipeline) (s : Settings) :
    List StageCall → Option Draft → Option Draft → Prop
  | nil {given? : Option Draft} : Passes p s [] given? given?
  | cons {name : StageName} {given? last? : Option Draft} {d : Draft} {calls : List StageCall}
      (h : p.Hands s name given? d) (rest : Passes p s calls (some d) last?) :
      Passes p s (⟨name, given?⟩ :: calls) given? last?

variable {calls : List StageCall} {last? : Option Draft}

/-- Stages that hand over run all, and any others after them. -/
theorem run_of_passes (h : p.Passes s calls given? last?) (names : List StageName) :
    p.run s (calls.map (·.stage) ++ names) given? =
      ⟨calls ++ (p.run s names last?).ran, (p.run s names last?).outcome⟩ := by
  induction h with
  | nil => rfl
  | cons h rest ih =>
      rw [List.map_cons, List.cons_append, run, step_of_hands h]
      simp only [ih, List.cons_append]

/-- Stages that are given a draft go on with that draft. -/
theorem Passes.same_draft {d : Draft} (h : p.Passes s calls (some d) last?) :
    (∃ d', last? = some d' ∧ d'.id = d.id) ∧
      ∀ call ∈ calls, ∃ d', call.given = some d' ∧ d'.id = d.id := by
  generalize hgiven : some d = given? at h
  induction h generalizing d with
  | nil => exact ⟨⟨d, hgiven.symm, rfl⟩, by simp⟩
  | cons h rest ih =>
      subst hgiven
      cases h with
      | back h =>
          obtain ⟨hlast, hcalls⟩ := ih rfl
          exact ⟨hlast, List.forall_mem_cons.mpr ⟨⟨d, rfl, rfl⟩, hcalls⟩⟩

/-- Any stages that are given a draft all hand it over, or there is a first one that fails. -/
theorem passes_or_fails (p : Pipeline) (s : Settings) (names : List StageName) (d : Draft) :
    (∃ calls d', calls.map (·.stage) = names ∧ p.Passes s calls (some d) (some d')) ∨
      ∃ before name after calls d' e, names = before ++ name :: after ∧
        calls.map (·.stage) = before ∧ p.Passes s calls (some d) (some d') ∧
        p.Fails s name (some d') e := by
  induction names generalizing d with
  | nil => exact .inl ⟨[], d, rfl, .nil⟩
  | cons name names ih =>
      obtain ⟨d', h⟩ | ⟨e, h⟩ := hands_or_fails p s name d
      · obtain ⟨calls, last, hcalls, hpasses⟩ |
          ⟨before, failing, after, calls, last, e, hnames, hcalls, hpasses, hfails⟩ := ih d'
        · exact .inl ⟨⟨name, some d⟩ :: calls, last, by rw [List.map_cons, hcalls], .cons h hpasses⟩
        · exact .inr ⟨name :: before, failing, after, ⟨name, some d⟩ :: calls, last, e,
            by rw [hnames, List.cons_append], by rw [List.map_cons, hcalls], .cons h hpasses, hfails⟩
      · exact .inr ⟨[], name, names, [], d, e, rfl, rfl, .nil, h⟩

/-! ## whole builds -/

/-- A stage that fails is the last one that runs. -/
theorem run_of_fails {e : Failure} (h : p.Passes s calls given? last?) (after : List StageName)
    (hfails : p.Fails s name last? e) :
    p.run s (calls.map (·.stage) ++ name :: after) given? =
      ⟨calls ++ [⟨name, last?⟩], .error e⟩ := by
  rw [run_of_passes h, run, step_of_fails hfails]

/-- The draft that a build works on is the one with which its first stage begins. -/
theorem Passes.first_draft (h : p.Passes s calls none last?) :
    (calls = [] ∧ last? = none ∨ ∃ d, last? = some d ∧ d.id = 0) ∧
      ∀ call ∈ calls.tail, ∃ d, call.given = some d ∧ d.id = 0 := by
  cases h with
  | nil => exact ⟨.inl ⟨rfl, rfl⟩, by simp⟩
  | cons h rest =>
      cases h with
      | made h =>
          obtain ⟨hlast, hcalls⟩ := rest.same_draft
          exact ⟨.inr hlast, hcalls⟩

/-- The first of several stages that are given a draft hands it back with what it holds then. -/
theorem Passes.back {d : Draft} {names : List StageName} (h : p.Passes s calls (some d) last?)
    (hcalls : calls.map (·.stage) = name :: names) :
    ∃ m rest, p name (some d.manifest) s = .ok (.same m) ∧ rest.map (·.stage) = names ∧
      p.Passes s rest (some { d with manifest := m }) last? := by
  cases h with
  | nil => cases hcalls
  | cons h rest =>
      rw [List.map_cons, List.cons.injEq] at hcalls
      obtain ⟨rfl, hcalls⟩ := hcalls
      cases h with
      | back h => exact ⟨_, _, h, hcalls, rest⟩

/-- If all stages pass, the first one makes a manifest and the others hand it back. -/
theorem Passes.chain {d : Draft} (h : p.Passes s calls none (some d))
    (hcalls : calls.map (·.stage) = StageName.all) :
    ∃ m₀ m₁ m₂, p .allocate none s = .ok (.other (some m₀)) ∧
      p .baseIdentity (some m₀) s = .ok (.same m₁) ∧
      p .containerAttach (some m₁) s = .ok (.same m₂) ∧
      p .storageAttach (some m₂) s = .ok (.same d.manifest) := by
  cases h with
  | cons h₀ h =>
      rw [List.map_cons, StageName.all, List.cons.injEq] at hcalls
      obtain ⟨rfl, hcalls⟩ := hcalls
      cases h₀ with
      | made h₀ =>
          obtain ⟨m₁, _, h₁, hcalls, h⟩ := h.back hcalls
          obtain ⟨m₂, _, h₂, hcalls, h⟩ := h.back hcalls
          obtain ⟨m₃, rest, h₃, hcalls, h⟩ := h.back hcalls
          rw [List.map_eq_nil_iff] at hcalls
          subst hcalls
          cases h
          exact ⟨_, m₁, m₂, h₀, h₁, h₂, h₃⟩

/-- If the first stage makes a manifest when it succeeds, a build is a run of all stages, or of those
up to the first that fails. -/
theorem trace_cases (hallocate : ∀ h, p .allocate none s = .ok h → ∃ m, h = .other (some m)) :
    (∃ calls d, calls.map (·.stage) = StageName.all ∧ p.Passes s calls none (some d) ∧
      p.trace s = ⟨calls, .ok (some d)⟩) ∨
    ∃ before name after calls given? e, StageName.all = before ++ name :: after ∧
      calls.map (·.stage) = before ∧ p.Passes s calls none given? ∧ p.Fails s name given? e ∧
      p.trace s = ⟨calls ++ [⟨name, given?⟩], .error e⟩ := by
  cases h : p .allocate none s with
  | error e =>
      obtain ⟨e', hfails⟩ : ∃ e', p.Fails s .allocate none e' := exists_fails_of_error h
      exact .inr ⟨[], .allocate, _, [], none, e', rfl, rfl, .nil, hfails, run_of_fails .nil _ hfails⟩
  | ok handover =>
      obtain ⟨m, rfl⟩ := hallocate handover h
      have hmade : p.Hands s .allocate none ⟨0, m⟩ := .made h
      obtain ⟨calls, d, hcalls, hpasses⟩ |
        ⟨before, name, after, calls, d, e, hnames, hcalls, hpasses, hfails⟩ :=
        passes_or_fails p s [.baseIdentity, .containerAttach, .storageAttach] ⟨0, m⟩
      · left
        have hall : p.Passes s (⟨.allocate, none⟩ :: calls) none (some d) := .cons hmade hpasses
        have hnames : (StageCall.mk .allocate none :: calls).map (·.stage) = StageName.all := by
          rw [List.map_cons, hcalls]
          rfl
        refine ⟨_, d, hnames, hall, ?_⟩
        have hrun := run_of_passes hall []
        rw [List.append_nil, hnames] at hrun
        rw [trace, hrun, run, List.append_nil]
      · right
        have hall : p.Passes s (⟨.allocate, none⟩ :: calls) none (some d) := .cons hmade hpasses
        have hnames' : StageName.all = (.allocate :: before) ++ name :: after := by
          rw [List.cons_append, ← hnames]
          rfl
        refine ⟨.allocate :: before, name, after, _, some d, e, hnames', ?_, hall, hfails, ?_⟩
        · rw [List.map_cons, hcalls]
        · rw [trace, hnames', ← hcalls]
          exact run_of_fails hall after hfails

theorem build_of_trace_ok {d : Draft} (h : p.trace s = ⟨calls, .ok (some d)⟩) :
    p.build s = .ok d.manifest := by
  rw [build, h]

theorem build_of_trace_error {e : Failure} (h : p.trace s = ⟨calls, .error e⟩) :
    p.build s = .error e := by
  rw [build, h]

section Build

variable (hallocate : ∀ h, p .allocate none s = .ok h → ∃ m, h = .other (some m))

include hallocate

/-- All stages but the first are given the draft that the first one made, and nothing else comes out
of a build. -/
theorem trace_same_draft {made : Draft} (hmade : p.Hands s .allocate none made) :
    (∀ call ∈ (p.trace s).ran.tail, ∃ d, call.given = some d ∧ d.id = made.id) ∧
      ∀ last?, (p.trace s).outcome = .ok last? → ∃ d, last? = some d ∧ d.id = made.id := by
  have hid : made.id = 0 := by
    cases hmade
    rfl
  rw [hid]
  obtain ⟨calls, d, hcalls, hpasses, htrace⟩ |
    ⟨before, name, after, calls, given?, e, hnames, hcalls, hpasses, hfails, htrace⟩ :=
    trace_cases hallocate
  · obtain ⟨hlast | ⟨d', hd', hd'id⟩, hgiven⟩ := hpasses.first_draft
    · simp at hlast
    · rw [htrace]
      refine ⟨hgiven, ?_⟩
      intro last? hlast
      exact ⟨d', by rw [← Except.ok.inj hlast, hd'], hd'id⟩
  · rw [htrace]
    refine ⟨?_, by simp⟩
    obtain ⟨⟨rfl, rfl⟩ | ⟨d, rfl, hd⟩, hgiven⟩ := hpasses.first_draft
    · simp
    · intro call hcall
      cases calls with
      | nil => cases hcall
      | cons first calls =>
          rw [List.cons_append, List.tail_cons, List.mem_append, List.mem_singleton] at hcall
          cases hcall with
          | inl hcall => exact hgiven call hcall
          | inr hcall => exact ⟨d, by rw [hcall], hd⟩

theorem build_eq_ok_iff {m : Manifest} :
    p.build s = .ok m ↔ ∃ m₀ m₁ m₂, p .allocate none s = .ok (.other (some m₀)) ∧
      p .baseIdentity (some m₀) s = .ok (.same m₁) ∧
      p .containerAttach (some m₁) s = .ok (.same m₂) ∧
      p .storageAttach (some m₂) s = .ok (.same m) := by
  constructor
  · intro hm
    obtain ⟨calls, d, hcalls, hpasses, htrace⟩ | ⟨_, _, _, _, _, e, _, _, _, _, htrace⟩ :=
      trace_cases hallocate
    · rw [build_of_trace_ok htrace] at hm
      obtain ⟨m₀, m₁, m₂, h₀, h₁, h₂, h₃⟩ := hpasses.chain hcalls
      exact ⟨m₀, m₁, m₂, h₀, h₁, h₂, Except.ok.inj hm ▸ h₃⟩
    · rw [build_of_trace_error htrace] at hm
      cases hm
  · rintro ⟨m₀, m₁, m₂, h₀, h₁, h₂, h₃⟩
    have hpasses : p.Passes s _ none (some ⟨0, m⟩) :=
      .cons (.made h₀) (.cons (.back h₁) (.cons (.back h₂) (.cons (.back h₃) .nil)))
    have hrun := run_of_passes hpasses []
    exact build_of_trace_ok hrun

theorem trace_of_build {m : Manifest} (h : p.build s = .ok m) :
    (p.trace s).ran.map (·.stage) = StageName.all ∧
      ∃ d, p.Passes s (p.trace s).ran none (some d) ∧ (p.trace s).outcome = .ok (some d) ∧
        d.manifest = m := by
  obtain ⟨calls, d, hcalls, hpasses, htrace⟩ | ⟨_, _, _, _, _, e, _, _, _, _, htrace⟩ :=
    trace_cases hallocate
  · rw [build_of_trace_ok htrace] at h
    rw [htrace]
    exact ⟨hcalls, d, hpasses, rfl, Except.ok.inj h⟩
  · rw [build_of_trace_error htrace] at h
    cases h

theorem build_eq_error_iff {e : Failure} :
    p.build s = .error e ↔ ∃ before name after calls given?,
      StageName.all = before ++ name :: after ∧ calls.map (·.stage) = before ∧
      p.Passes s calls none given? ∧ p.Fails s name given? e ∧
      (p.trace s).ran = calls ++ [⟨name, given?⟩] := by
  constructor
  · intro he
    obtain ⟨_, d, _, _, htrace⟩ |
      ⟨before, name, after, calls, given?, e', hnames, hcalls, hpasses, hfails, htrace⟩ :=
      trace_cases hallocate
    · rw [build_of_trace_ok htrace] at he
      cases he
    · rw [build_of_trace_error htrace] at he
      rw [← Except.error.inj he]
      exact ⟨before, name, after, calls, given?, hnames, hcalls, hpasses, hfails, by rw [htrace]⟩
  · rintro ⟨before, name, after, calls, given?, hnames, hcalls, hpasses, hfails, -⟩
    have hrun := run_of_fails hpasses after hfails
    rw [hcalls, ← hnames] at hrun
    exact build_of_trace_error hrun

end Build

/-! ## main result -/

/-- Whatever the stages are, if the first one makes a manifest when it succeeds: all others that run
are given the draft that the first one made, and the build ends with that draft or fails.  It succeeds
if and only if no stage fails and the last three hand back the very object they were given; the
manifest is that object after all four.  It fails if and only if some stage fails after others that
do not, with the error that this stage alone decides, and no stage runs after it. -/
theorem build_first_failure (p : Pipeline) (s : Settings)
    (hallocate : ∀ h, p .allocate none s = .ok h → ∃ m, h = .other (some m)) :
    (∀ made, p.Hands s .allocate none made →
      (∀ call ∈ (p.trace s).ran.tail, ∃ d, call.given = some d ∧ d.id = made.id) ∧
      ∀ last?, (p.trace s).outcome = .ok last? → ∃ d, last? = some d ∧ d.id = made.id) ∧
    (∀ m, p.build s = .ok m ↔ ∃ m₀ m₁ m₂, p .allocate none s = .ok (.other (some m₀)) ∧
      p .baseIdentity (some m₀) s = .ok (.same m₁) ∧
      p .containerAttach (some m₁) s = .ok (.same m₂) ∧
      p .storageAttach (some m₂) s = .ok (.same m)) ∧
    (∀ m, p.build s = .ok m → (p.trace s).ran.map (·.stage) = StageName.all ∧
      ∃ d, p.Passes s (p.trace s).ran none (some d) ∧ (p.trace s).outcome = .ok (some d) ∧
        d.manifest = m) ∧
    (∀ e, p.build s = .error e ↔ ∃ before name after calls given?,
      StageName.all = before ++ name :: after ∧ calls.map (·.stage) = before ∧
      p.Passes s calls none given? ∧ p.Fails s name given? e ∧
      (p.trace s).ran = calls ++ [⟨name, given?⟩]) := by
  refine ⟨?_, ?_, ?_, ?_⟩
  · intro made hmade
    exact trace_same_draft hallocate hmade
  · intro m
    exact build_eq_ok_iff hallocate
  · intro m hm
    exact trace_of_build hallocate hm
  · intro e
    exact build_eq_error_iff hallocate

/-- A failure that names another stage stays as it is, a copy is not the object itself, and stages
that hand back what they were given leave what the first one made. -/
theorem build_first_failure_replaced :
    let standard : Pipeline := Pipeline.standard Settings.serverVisitor
    let misnaming := standard.replaceStage .baseIdentity fun _ _ =>
      .error (.stage "StorageAttach" "boom")
    let copying := standard.replaceStage .baseIdentity fun m? _ => .ok (.other m?)
    let idle : Pipeline := fun name => if name = .allocate then standard .allocate else fun m? _ =>
      match m? with
      | some m => .ok (.same m)
      | none => .error .absent
    misnaming.build {} = .error (.stage "StorageAttach" "boom") ∧
    copying.build {} =
      .error (.stage "BaseIdentity" "stage returned a different manifest object") ∧
    idle.build {} = .ok {} := by
  intro standard misnaming copying idle
  have hmade : ∀ p : Pipeline, p .allocate none {} = .ok (.other (some {})) →
      ∀ h, p .allocate none {} = .ok h → ∃ m, h = .other (some m) := by
    intro p hp h hh
    exact ⟨{}, Except.ok.inj (hh.symm.trans hp)⟩
  obtain ⟨-, -, -, hmisnaming⟩ := build_first_failure misnaming {} (hmade misnaming rfl)
  obtain ⟨-, -, -, hcopying⟩ := build_first_failure copying {} (hmade copying rfl)
  obtain ⟨-, hidle, -⟩ := build_first_failure idle {} (hmade idle rfl)
  refine ⟨(hmisnaming _).mpr ?_, (hcopying _).mpr ?_, (hidle _).mpr ⟨{}, {}, {}, rfl, rfl, rfl, rfl⟩⟩
  · exact ⟨[.allocate], .baseIdentity, _, [⟨.allocate, none⟩], some ⟨0, {}⟩, rfl, rfl,
      .cons (.made rfl) .nil, .ofStage rfl rfl, rfl⟩
  · exact ⟨[.allocate], .baseIdentity, _, [⟨.allocate, none⟩], some ⟨0, {}⟩, rfl, rfl,
      .cons (.made rfl) .nil, .foreign rfl rfl, rfl⟩

end Pipeline

end ControlPlane
