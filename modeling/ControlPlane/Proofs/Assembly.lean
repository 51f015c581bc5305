import ControlPlane.Build.Assembly

/-!
# All or nothing

An assembly calls hook after hook until one fails.  If none does, the container holds exactly what
the hooks gave, field by field (`Container.Holds`); if one does, the container is left as it was
before the first call, whatever the hooks before that one gave.

* `Assembly.run_collect_of_ok`, `Assembly.run_collect_of_error` — the calls of several hooks, by
  induction on them: all of them, or those up to the first that fails;
* `assemble_of_ok`, `assemble_of_error` — the whole assembly in both cases;
* `assemble_all_or_nothing` — both together, for any visitor.
-/

namespace ControlPlane

@[simp] theorem mapError_ok {ε ε' α : Type} (f : ε → ε') (a : α) :
    (Except.ok a : Except ε α).mapError f = .ok a := rfl

@[simp] theorem mapError_error {ε ε' α : Type} (f : ε → ε') (e : ε) :
    (Except.error e : Except ε α).mapError f = .error (f e) := rfl

/-! ## command and arguments -/

namespace Value

/-- A pair is a value that consists of two elements, whatever kind of value it is. -/
theorem pair?_eq_ok_iff {v a b : Value} : v.pair? = .ok (a, b) ↔ v.elements = .ok [a, b] := by
  unfold pair?
  split <;> simp_all

theorem texts?_eq_some_iff {vs : List Value} {words : List String} :
    texts? vs = some words ↔ vs = words.map .text := by
  induction vs generalizing words with
  | nil => cases words <;> simp [texts?]
  | cons v vs ih =>
      cases v with
      | scalar s =>
          cases s with
          | text s =>
              cases words with
              | nil => simp [texts?]
              | cons w ws => simpa [texts?, ih] using and_comm
          | _ => cases words <;> simp [texts?]
      | _ => cases words <;> simp [texts?]

/-- The value that stands in the field of a command or of its arguments. -/
def ofWords : Option (Contribution (List String)) → Value
  | none => .null
  | some (.proper words) => .list (words.map .text)
  | some (.other v) => v

/-- A field for words holds the very value that it was given. -/
theorem ofWords_words? (v : Value) : ofWords v.words? = v := by
  fun_cases words? v with
  | case1 => rfl
  | case2 items words h => rw [ofWords, ← texts?_eq_some_iff.mp h]
  | case3 => rfl
  | case4 => rfl

end Value

/-! ## hooks that succeed -/

namespace Visitor

/-- A hook succeeds on a container. -/
def Succeeds (visitor : Visitor) (c : Container) (hook : Hook) : Prop :=
  ∃ result, visitor.visit hook c = .ok result

/-- The hook for the command and its arguments succeeds if it gives exactly two elements. -/
theorem commandPair_eq_ok_iff {visitor : Visitor} {c : Container} {a b : Value} :
    visitor.commandPair c = .ok (a, b) ↔
      ∃ v, visitor.commandAndArgs c = .ok v ∧ v.elements = .ok [a, b] := by
  simp only [commandPair, ← Value.pair?_eq_ok_iff]
  cases visitor.commandAndArgs c with
  | error e => simp
  | ok v => cases h : v.pair? <;> simp [h]

/-- The hooks of a visitor all succeed, or there is a first one that fails. -/
theorem first_failure {visitor : Visitor} {c : Container} (hooks : List Hook)
    (h : ¬ ∀ hook ∈ hooks, visitor.Succeeds c hook) :
    ∃ before hook after e, hooks = before ++ hook :: after ∧
      (∀ hook ∈ before, visitor.Succeeds c hook) ∧ visitor.visit hook c = .error e := by
  induction hooks with
  | nil => simp at h
  | cons first hooks ih =>
      cases hfirst : visitor.visit first c with
      | error e => exact ⟨[], first, hooks, e, rfl, by simp, hfirst⟩
      | ok result =>
          have hrest : ¬ ∀ hook ∈ hooks, visitor.Succeeds c hook := by
            intro hall
            exact h (List.forall_mem_cons.mpr ⟨⟨result, hfirst⟩, hall⟩)
          obtain ⟨before, hook, after, e, hhooks, hbefore, he⟩ := ih hrest
          refine ⟨first :: before, hook, after, e, by rw [hhooks]; rfl, ?_, he⟩
          exact List.forall_mem_cons.mpr ⟨⟨result, hfirst⟩, hbefore⟩

end Visitor

/-! ## work on a container -/

/-- The results of several hooks, where there is one for each hook there is. -/
def Results.of (result : (hook : Hook) → hook.Result) (hooks : List Hook) : Results hooks :=
  fun hook _ => result hook

theorem Results.of_cons (result : (hook : Hook) → hook.Result) (hook : Hook) (hooks : List Hook) :
    of result (hook :: hooks) = cons (result hook) (of result hooks) := by
  funext other h
  by_cases same : other = hook
  · subst same
    simp [cons, of]
  · simp [cons, of, same]

theorem Results.get_of (result : (hook : Hook) → hook.Result) :
    (of result Hook.all).get = result := rfl

namespace Assembly

section Bind

variable {α β : Type} {x : Assembly α} {c c' : Container} {calls : List Call}

theorem run_pure (a : α) (c : Container) : (Pure.pure a : Assembly α).run c = ⟨[], c, .ok a⟩ := rfl

theorem run_bind_of_ok {a : α} (h : x.run c = ⟨calls, c', .ok a⟩) (f : α → Assembly β) :
    (x >>= f).run c =
      ⟨calls ++ ((f a).run c').calls, ((f a).run c').container, ((f a).run c').outcome⟩ := by
  simp only [Bind.bind, Assembly.bind, h]

theorem run_bind_of_error {e : Failure} (h : x.run c = ⟨calls, c', .error e⟩)
    (f : α → Assembly β) : (x >>= f).run c = ⟨calls, c', .error e⟩ := by
  simp only [Bind.bind, Assembly.bind, h]

end Bind

variable (name : String) {visitor : Visitor} {hook : Hook} {c : Container}

theorem run_call_of_ok {result : hook.Result} (h : visitor.visit hook c = .ok result) :
    (call name visitor hook).run c = ⟨[⟨hook, c⟩], c, .ok result⟩ := by
  simp only [call, h, mapError_ok]

theorem run_call_of_error {e : Failure} (h : visitor.visit hook c = .error e) :
    (call name visitor hook).run c = ⟨[⟨hook, c⟩], c, .error (.assembly name hook e)⟩ := by
  simp only [call, h, mapError_error]

/-- If no hook fails, all are called and all results are there. -/
theorem run_collect_of_ok {result : (hook : Hook) → hook.Result} (hooks : List Hook)
    (h : ∀ hook ∈ hooks, visitor.visit hook c = .ok (result hook)) :
    (collect name visitor hooks).run c = ⟨hooks.map (⟨·, c⟩), c, .ok (.of result hooks)⟩ := by
  induction hooks with
  | nil =>
      have hnil : Results.of result [] = Results.nil := by
        funext hook h
        cases h
      rw [collect, run_pure, hnil]
      rfl
  | cons hook hooks ih =>
      have hfirst := run_call_of_ok name (h hook (List.mem_cons_self ..))
      have hrest := ih fun other hmem => h other (List.mem_cons_of_mem hook hmem)
      rw [collect, run_bind_of_ok hfirst, run_bind_of_ok hrest, run_pure, Results.of_cons]
      simp

/-- The first hook that fails is the last one that is called, and the container is as it was. -/
theorem run_collect_of_error {before : List Hook} (after : List Hook) {e : Failure}
    (hbefore : ∀ hook ∈ before, visitor.Succeeds c hook)
    (he : visitor.visit hook c = .error e) :
    (collect name visitor (before ++ hook :: after)).run c =
      ⟨(before ++ [hook]).map (⟨·, c⟩), c, .error (.assembly name hook e)⟩ := by
  induction before with
  | nil =>
      rw [List.nil_append, collect, run_bind_of_error (run_call_of_error name he)]
      rfl
  | cons first before ih =>
      obtain ⟨result, hresult⟩ := hbefore first (List.mem_cons_self ..)
      have hrest := ih fun other hmem => hbefore other (List.mem_cons_of_mem first hmem)
      rw [List.cons_append, collect, run_bind_of_ok (run_call_of_ok name hresult),
        run_bind_of_error hrest]
      rfl

end Assembly

/-! ## the whole assembly -/

/-- The container with the results of all hooks in their fields. -/
def Container.filled (c : Container) (result : (hook : Hook) → hook.Result) : Container :=
  { c with
    command := (result .commandAndArgs).1.words?
    args := (result .commandAndArgs).2.words?
    ports := result .ports
    env := result .envs
    envFrom := result .envFrom
    resources := result .resourceRequirements
    volumeMounts := result .volumeMounts
    volumeDevices := result .volumeDevices
    livenessProbe := result .livenessProbe
    readinessProbe := result .readinessProbe
    lifecycle := result .lifecycle
    securityContext := result .securityContext }

theorem run_fill (results : Results Hook.all) (c : Container) :
    (Assembly.fill results).run c = ⟨[], c.filled results.get, .ok ()⟩ := rfl

section Assemble

variable {base : Container} {visitor : Visitor}

theorem assemble_of_ok {result : (hook : Hook) → hook.Result}
    (h : ∀ hook, visitor.visit hook base = .ok (result hook)) :
    assemble base visitor =
      ⟨Hook.all.map (⟨·, base⟩), base.filled result, .ok (base.filled result)⟩ := by
  have hcollect := Assembly.run_collect_of_ok base.name Hook.all fun hook _ => h hook
  rw [assemble, assemble.work, Assembly.run_bind_of_ok hcollect,
    Assembly.run_bind_of_ok (run_fill _ _), Results.get_of]
  simp [Assembly.current]

theorem assemble_of_error {before after : List Hook} {hook : Hook} {e : Failure}
    (hall : Hook.all = before ++ hook :: after)
    (hbefore : ∀ hook ∈ before, visitor.Succeeds base hook)
    (he : visitor.visit hook base = .error e) :
    assemble base visitor =
      ⟨(before ++ [hook]).map (⟨·, base⟩), base, .error (.assembly base.name hook e)⟩ := by
  have hcollect : (Assembly.collect base.name visitor Hook.all).run base =
      ⟨(before ++ [hook]).map (⟨·, base⟩), base, .error (.assembly base.name hook e)⟩ := by
    rw [hall]
    exact Assembly.run_collect_of_error base.name after hbefore he
  rw [assemble, assemble.work, Assembly.run_bind_of_error hcollect]

theorem assemble_cases (base : Container) (visitor : Visitor) :
    (∃ result : (hook : Hook) → hook.Result,
      (∀ hook, visitor.visit hook base = .ok (result hook)) ∧ assemble base visitor =
        ⟨Hook.all.map (⟨·, base⟩), base.filled result, .ok (base.filled result)⟩) ∨
    ∃ before hook after e, Hook.all = before ++ hook :: after ∧
      (∀ hook ∈ before, visitor.Succeeds base hook) ∧ visitor.visit hook base = .error e ∧
      assemble base visitor =
        ⟨(before ++ [hook]).map (⟨·, base⟩), base, .error (.assembly base.name hook e)⟩ := by
  by_cases hall : ∀ hook, visitor.Succeeds base hook
  · obtain ⟨result, hresult⟩ := Classical.skolem.mp hall
    exact .inl ⟨result, hresult, assemble_of_ok hresult⟩
  · obtain ⟨before, hook, after, e, hhooks, hbefore, he⟩ :=
      Visitor.first_failure Hook.all (fun h => hall fun hook => h hook hook.mem_all)
    exact .inr ⟨before, hook, after, e, hhooks, hbefore, he, assemble_of_error hhooks hbefore he⟩

end Assemble

/-! ## what a container holds -/

/-- A container has the base's name, image and pull policy, and in every other field what the hook
for it gave on the base: nothing and an empty list are not the same. -/
structure Container.Holds (c base : Container) (visitor : Visitor) : Prop where
  name : c.name = base.name
  image : c.image = base.image
  imagePullPolicy : c.imagePullPolicy = base.imagePullPolicy
  commandAndArgs : ∃ v, visitor.commandAndArgs base = .ok v ∧
    v.elements = .ok [.ofWords c.command, .ofWords c.args]
  ports : visitor.ports base = .ok c.ports
  env : visitor.envs base = .ok c.env
  envFrom : visitor.envFrom base = .ok c.envFrom
  resources : visitor.resourceRequirements base = .ok c.resources
  volumeMounts : visitor.volumeMounts base = .ok c.volumeMounts
  volumeDevices : visitor.volumeDevices base = .ok c.volumeDevices
  livenessProbe : visitor.livenessProbe base = .ok c.livenessProbe
  readinessProbe : visitor.readinessProbe base = .ok c.readinessProbe
  lifecycle : visitor.lifecycle base = .ok c.lifecycle
  securityContext : visitor.securityContext base = .ok c.securityContext

theorem Container.holds_filled {base : Container} {visitor : Visitor}
    {result : (hook : Hook) → hook.Result}
    (h : ∀ hook, visitor.visit hook base = .ok (result hook)) :
    (base.filled result).Holds base visitor where
  name := rfl
  image := rfl
  imagePullPolicy := rfl
  commandAndArgs := by
    obtain ⟨v, hv, helements⟩ := Visitor.commandPair_eq_ok_iff.mp (h .commandAndArgs)
    exact ⟨v, hv, by simpa only [filled, Value.ofWords_words?] using helements⟩
  ports := h .ports
  env := h .envs
  envFrom := h .envFrom
  resources := h .resourceRequirements
  volumeMounts := h .volumeMounts
  volumeDevices := h .volumeDevices
  livenessProbe := h .livenessProbe
  readinessProbe := h .readinessProbe
  lifecycle := h .lifecycle
  securityContext := h .securityContext

/-! ## main result -/

namespace Call

theorem map_hook_map (hooks : List Hook) (c : Container) :
    (hooks.map (Call.mk · c)).map (·.hook) = hooks := by
  rw [List.map_map]
  exact List.map_id hooks

/-- Calls of the first few hooks on one container are in order, none is made twice, and all of them
see that container. -/
theorem ordered_of_prefix {hooks : List Hook} (h : hooks <+: Hook.all) (c : Container) :
    let calls := hooks.map (Call.mk · c)
    calls.map (·.hook) <+: Hook.all ∧ (calls.map (·.hook)).Nodup ∧
      ∀ call ∈ calls, call.seen = c := by
  have hnodup : Hook.all.Nodup := by decide
  intro calls
  rw [map_hook_map]
  refine ⟨h, hnodup.sublist h.sublist, ?_⟩
  intro call hcall
  obtain ⟨hook, -, rfl⟩ := List.mem_map.mp hcall
  rfl

end Call

theorem baseContainer?_text (name image : String) (pullPolicy : Option PullPolicy) :
    baseContainer? (.text name) (.text image) (pullPolicy.elim .null (.text ·.text)) =
      .ok { name, image, imagePullPolicy := pullPolicy } := by
  cases pullPolicy with
  | none => rfl
  | some policy => cases policy <;> rfl

/-- The hooks of any visitor are called in their order, each at most once, and all of them see the
container with nothing but its name, image and pull policy.  If all succeed, the container holds what
they gave.  Otherwise the assembly fails with the first one that fails and is the last one called;
then nothing has been assigned. -/
theorem assemble_all_or_nothing (name image : String) (pullPolicy : Option PullPolicy)
    (visitor : Visitor) :
    let base : Container := { name, image, imagePullPolicy := pullPolicy }
    let run := assemble base visitor
    let called := run.calls.map (·.hook)
    baseContainer? (.text name) (.text image) (pullPolicy.elim .null (.text ·.text)) = .ok base ∧
    (called <+: Hook.all ∧ called.Nodup ∧ ∀ call ∈ run.calls, call.seen = base) ∧
    ((∀ hook, visitor.Succeeds base hook) →
      called = Hook.all ∧ run.outcome = .ok run.container ∧ run.container.Holds base visitor) ∧
    ((¬ ∀ hook, visitor.Succeeds base hook) →
      ∃ before hook after e, Hook.all = before ++ hook :: after ∧
        (∀ hook ∈ before, visitor.Succeeds base hook) ∧ visitor.visit hook base = .error e ∧
        called = before ++ [hook] ∧ run.outcome = .error (.assembly name hook e) ∧
        run.container = base) := by
  intro base run called
  refine ⟨baseContainer?_text name image pullPolicy, ?_⟩
  obtain ⟨result, hresult, hrun⟩ | ⟨before, hook, after, e, hhooks, hbefore, he, hrun⟩ :=
    assemble_cases base visitor
  · have hcalled : called = Hook.all := by
      simp only [called, run, hrun, Call.map_hook_map]
    refine ⟨?_, ?_, ?_⟩
    · simpa only [called, run, hrun] using Call.ordered_of_prefix List.prefix_rfl base
    · intro _
      exact ⟨hcalled, by simp only [run, hrun], by
        simpa only [run, hrun] using Container.holds_filled hresult⟩
    · intro hfails
      exact absurd (fun hook => ⟨result hook, hresult hook⟩) hfails
  · have hcalled : called = before ++ [hook] := by
      simp only [called, run, hrun, Call.map_hook_map]
    have hprefix : before ++ [hook] <+: Hook.all := ⟨after, by simp [hhooks]⟩
    refine ⟨?_, ?_, ?_⟩
    · simpa only [called, run, hrun] using Call.ordered_of_prefix hprefix base
    · intro hall
      obtain ⟨result, hresult⟩ := hall hook
      rw [he] at hresult
      cases hresult
    · intro _
      exact ⟨before, hook, after, e, hhooks, hbefore, he, hcalled, by simp only [run, hrun, base],
        by simp only [run, hrun]⟩

/-- A text of two characters is a command and its arguments; an empty list of ports is no absent
one; and of two hooks that fail the first is to blame. -/
theorem assemble_all_or_nothing_text :
    let base : Container := { name := "app", image := "i" }
    let visitor : Visitor := { Visitor.idle with
      commandAndArgs := fun _ => .ok (.text "ab")
      ports := fun _ => .ok (some (.proper [])) }
    let failing : Visitor := { visitor with
      lifecycle := fun _ => .error (.raised "early")
      securityContext := fun _ => .error (.raised "late") }
    (assemble base visitor).outcome = .ok { base with
      command := some (.other (.text "a"))
      args := some (.other (.text "b"))
      ports := some (.proper []) } ∧
    (assemble base visitor).container.Holds base visitor ∧
    (assemble base failing).outcome = .error (.assembly "app" .lifecycle (.raised "early")) ∧
    (assemble base failing).container = base := by
  intro base visitor failing
  obtain ⟨-, -, hsucceeds, -⟩ := assemble_all_or_nothing "app" "i" none visitor
  obtain ⟨-, -, -, hfails⟩ := assemble_all_or_nothing "app" "i" none failing
  have hall : ∀ hook, visitor.Succeeds base hook := by
    intro hook
    cases hook <;> exact ⟨_, rfl⟩
  have hnot : ¬ ∀ hook, failing.Succeeds base hook := by
    intro h
    obtain ⟨result, hresult⟩ := h .lifecycle
    cases hresult
  obtain ⟨before, hook, after, e, -, -, -, -, -, hcontainer⟩ := hfails hnot
  exact ⟨rfl, (hsucceeds hall).2.2, rfl, hcontainer⟩

end ControlPlane
