import ControlPlane.Build.Pipeline
import Mathlib.Data.List.Basic

/-!
# Runs of the later stages

The stages after the first one work on one manifest, in any order, any number of times and each time
with settings of their own.  A manifest falls into four parts (`Manifest.Parts`): one for each later
stage, which no other later stage writes, and the rest, which none of them writes.

* `work_some` — a step on a manifest, failed or not, is a step on its parts;
* `foldl_after` — steps on parts one after the other, in closed form: the last identity, the last
  container, all claims;
* `takeSteps_parts` — both together, for whole runs.
-/

namespace ControlPlane

/-! ## work on a manifest that is there -/

namespace Work

variable {α β : Type}

@[simp] theorem bind_apply (x : Work α) (f : α → Work β) (m? : Option Manifest) :
    (x >>= f) m? = match x m? with
      | (.ok a, m?) => f a m?
      | (.error e, m?) => (.error e, m?) := rfl

@[simp] theorem compute_apply (x : Except Failure α) (m? : Option Manifest) :
    compute x m? = (x, m?) := rfl

end Work

namespace Manifest

/-- The manifest after the work on its identity. -/
def withIdentity (m : Manifest) (s : Settings) : Manifest :=
  { m with
    metadata := { m.metadata with
      name := some Naming.statefulSet
      namespaceName := some s.namespaceName }
    spec := { m.spec with
      serviceName := some Naming.headlessService
      selector := some { matchLabels := Naming.labels }
      replicas := some s.replicas
      template := { m.spec.template with
        metadata := { m.spec.template.metadata with labels := some Naming.labels }
        spec := { m.spec.template.spec with volumes := some [configVolume] } } } }

/-- The manifest with a single container. -/
def withContainer (m : Manifest) (c : Container) : Manifest :=
  { m with spec.template.spec.containers := [c] }

/-- The manifest with one more claim. -/
def withClaim (m : Manifest) (claim : PersistentVolumeClaim) : Manifest :=
  { m with spec.volumeClaimTemplates := m.spec.volumeClaimTemplates ++ [claim] }

end Manifest

namespace LaterStage

theorem identityWork_some (s : Settings) (m : Manifest) :
    identityWork s (some m) = (.ok (), some (m.withIdentity s)) := rfl

/-- The container is put together before anything is assigned. -/
theorem containerWork_some (visitor : Settings → Visitor) (s : Settings) (m : Manifest) :
    containerWork visitor s (some m) =
      match (assemble s.baseContainer (visitor s)).outcome with
      | .ok c => (.ok (), some (m.withContainer c))
      | .error e => (.error e, some m) := by
  simp only [containerWork, Work.bind_apply, Work.compute_apply]
  cases (assemble s.baseContainer (visitor s)).outcome with
  | error e => rfl
  | ok c => rfl

/-- The capacity is read before anything is assigned. -/
theorem storageWork_some (s : Settings) (m : Manifest) :
    storageWork s (some m) =
      match Failure.parseQuantity s.capacity with
      | .ok capacity => (.ok (), some (m.withClaim (s.dataClaim capacity)))
      | .error e => (.error e, some m) := by
  simp only [storageWork, Work.bind_apply, Work.compute_apply]
  cases Failure.parseQuantity s.capacity with
  | error e => rfl
  | ok capacity => rfl

end LaterStage

/-! ## the parts of a manifest -/

/-- What the identity stage writes. -/
structure Identity where
  name : Option String
  namespaceName : Option String
  serviceName : Option String
  selector : Option LabelSelector
  replicas : Option Int
  podLabels : Option Labels
  podVolumes : Option (List Volume)

/-- What no later stage writes. -/
structure Remainder where
  apiVersion : String
  kind : String
  labels : Option Labels
  podName : Option String
  podNamespace : Option String

/-- A manifest in parts: one for each later stage, and the rest. -/
structure Manifest.Parts where
  identity : Identity
  containers : List Container
  claims : List PersistentVolumeClaim
  remainder : Remainder

/-- The parts of a manifest. -/
def Manifest.parts (m : Manifest) : Parts where
  identity :=
    { name := m.metadata.name
      namespaceName := m.metadata.namespaceName
      serviceName := m.spec.serviceName
      selector := m.spec.selector
      replicas := m.spec.replicas
      podLabels := m.spec.template.metadata.labels
      podVolumes := m.spec.template.spec.volumes }
  containers := m.spec.template.spec.containers
  claims := m.spec.volumeClaimTemplates
  remainder :=
    { apiVersion := m.apiVersion
      kind := m.kind
      labels := m.metadata.labels
      podName := m.spec.template.metadata.name
      podNamespace := m.spec.template.metadata.namespaceName }

/-- There is nothing to a manifest but its parts. -/
theorem Manifest.parts_injective {m n : Manifest} (h : m.parts = n.parts) : m = n := by
  obtain ⟨version, kind, ⟨name, ns, labels⟩, service, selector, replicas,
    ⟨⟨podName, podNs, podLabels⟩, volumes, containers⟩, claims⟩ := m
  obtain ⟨version', kind', ⟨name', ns', labels'⟩, service', selector', replicas',
    ⟨⟨podName', podNs', podLabels'⟩, volumes', containers'⟩, claims'⟩ := n
  simp only [parts, Parts.mk.injEq, Identity.mk.injEq, Remainder.mk.injEq] at h
  obtain ⟨⟨h₁, h₂, h₃, h₄, h₅, h₆, h₇⟩, h₈, h₉, h₁₀, h₁₁, h₁₂, h₁₃, h₁₄⟩ := h
  subst h₁ h₂ h₃ h₄ h₅ h₆ h₇ h₈ h₉ h₁₀ h₁₁ h₁₂ h₁₃ h₁₄
  rfl

/-- The identity that settings stand for. -/
def Settings.identity (s : Settings) : Identity where
  name := some Naming.statefulSet
  namespaceName := some s.namespaceName
  serviceName := some Naming.headlessService
  selector := some { matchLabels := Naming.labels }
  replicas := some s.replicas
  podLabels := some Naming.labels
  podVolumes := some [configVolume]

namespace Manifest

@[simp] theorem parts_withIdentity (m : Manifest) (s : Settings) :
    (m.withIdentity s).parts = { m.parts with identity := s.identity } := rfl

@[simp] theorem parts_withContainer (m : Manifest) (c : Container) :
    (m.withContainer c).parts = { m.parts with containers := [c] } := rfl

@[simp] theorem parts_withClaim (m : Manifest) (claim : PersistentVolumeClaim) :
    (m.withClaim claim).parts = { m.parts with claims := m.parts.claims ++ [claim] } := rfl

end Manifest

/-! ## steps -/

/-- A later stage with settings of its own. -/
structure Step where
  stage : LaterStage
  settings : Settings

namespace Step

/-- The identity that a step gives to the manifest. -/
def identity? (step : Step) : Option Identity :=
  match step.stage with
  | .baseIdentity => some step.settings.identity
  | _ => none

/-- The container that a step puts in place; none if a hook fails. -/
def container? (visitor : Settings → Visitor) (step : Step) : Option Container :=
  match step.stage with
  | .containerAttach =>
    (assemble step.settings.baseContainer (visitor step.settings)).outcome.toOption
  | _ => none

/-- The claim that a step adds; none if the capacity is no quantity. -/
def claim? (step : Step) : Option PersistentVolumeClaim :=
  match step.stage with
  | .storageAttach =>
    (Failure.parseQuantity step.settings.capacity).toOption.map step.settings.dataClaim
  | _ => none

/-- The work of a step on the object. -/
def work (visitor : Settings → Visitor) (step : Step) : Work Unit :=
  step.stage.work visitor step.settings

end Step

/-- The object after steps one after the other; a step is taken however those before it went. -/
def takeSteps (visitor : Settings → Visitor) (steps : List Step) (m? : Option Manifest) :
    Option Manifest :=
  steps.foldl (fun m? step => (step.work visitor m?).2) m?

/-- The parts of a manifest after a step. -/
def Manifest.Parts.after (visitor : Settings → Visitor) (p : Parts) (step : Step) : Parts :=
  { p with
    identity := step.identity?.getD p.identity
    containers := ((step.container? visitor).map ([·])).getD p.containers
    claims := p.claims ++ step.claim?.toList }

namespace Step

variable (visitor : Settings → Visitor)

/-- A step that fails leaves the object as it was. -/
theorem object_of_failed {step : Step} {m : Manifest} {e : Failure} {m? : Option Manifest}
    (h : step.work visitor (some m) = (.error e, m?)) : m? = some m := by
  obtain ⟨stage, s⟩ := step
  cases stage with
  | baseIdentity =>
      rw [work, LaterStage.work, LaterStage.identityWork_some] at h
      cases h
  | containerAttach =>
      rw [work, LaterStage.work, LaterStage.containerWork_some] at h
      split at h
      · cases h
      · exact (congrArg Prod.snd h).symm
  | storageAttach =>
      rw [work, LaterStage.work, LaterStage.storageWork_some] at h
      split at h
      · cases h
      · exact (congrArg Prod.snd h).symm

/-- How a step goes does not depend on the manifest: it succeeds if it has something to write. -/
theorem succeeds_iff (step : Step) (m : Manifest) :
    (step.work visitor (some m)).1 = .ok () ↔
      step.identity?.isSome ∨ (step.container? visitor).isSome ∨ step.claim?.isSome := by
  obtain ⟨stage, s⟩ := step
  cases stage with
  | baseIdentity => simp [work, LaterStage.work, LaterStage.identityWork_some, identity?]
  | containerAttach =>
      simp only [work, LaterStage.work, LaterStage.containerWork_some, identity?, container?, claim?]
      cases (assemble s.baseContainer (visitor s)).outcome <;> simp [Except.toOption]
  | storageAttach =>
      simp only [work, LaterStage.work, LaterStage.storageWork_some, identity?, container?, claim?]
      cases Failure.parseQuantity s.capacity <;> simp [Except.toOption]

/-- A step on a manifest is a step on its parts. -/
theorem work_some (step : Step) (m : Manifest) :
    ∃ m', (step.work visitor (some m)).2 = some m' ∧ m'.parts = m.parts.after visitor step := by
  obtain ⟨stage, s⟩ := step
  cases stage with
  | baseIdentity =>
      refine ⟨m.withIdentity s, rfl, ?_⟩
      simp [Manifest.Parts.after, identity?, container?, claim?]
  | containerAttach =>
      simp only [work, LaterStage.work, LaterStage.containerWork_some, Manifest.Parts.after,
        identity?, container?, claim?]
      cases (assemble s.baseContainer (visitor s)).outcome with
      | ok c => exact ⟨m.withContainer c, rfl, by simp [Except.toOption]⟩
      | error e => exact ⟨m, rfl, by simp [Except.toOption]⟩
  | storageAttach =>
      simp only [work, LaterStage.work, LaterStage.storageWork_some, Manifest.Parts.after,
        identity?, container?, claim?]
      cases Failure.parseQuantity s.capacity with
      | ok capacity =>
          exact ⟨m.withClaim (s.dataClaim capacity), rfl, by simp [Except.toOption]⟩
      | error e => exact ⟨m, rfl, by simp [Except.toOption]⟩

end Step

/-! ## runs -/

/-- The last thing found in a list is that of its rest, or else that of its head. -/
theorem getLast?_filterMap_cons {α β : Type} (f : α → Option β) (a : α) (as : List α) :
    ((a :: as).filterMap f).getLast? = (as.filterMap f).getLast?.or (f a) := by
  rw [List.filterMap_cons]
  cases h : f a with
  | none => simp
  | some b => cases h' : (as.filterMap f).getLast? <;> simp [List.getLast?_cons, h']

theorem filterMap_cons_eq_append {α β : Type} (f : α → Option β) (a : α) (as : List α) :
    (a :: as).filterMap f = (f a).toList ++ as.filterMap f := by
  rw [List.filterMap_cons]
  cases f a <;> rfl

section Runs

variable (visitor : Settings → Visitor)

/-- A run on a manifest is a run on its parts. -/
theorem takeSteps_some (steps : List Step) (m : Manifest) :
    ∃ m', takeSteps visitor steps (some m) = some m' ∧
      m'.parts = steps.foldl (Manifest.Parts.after visitor) m.parts := by
  induction steps generalizing m with
  | nil => exact ⟨m, rfl, rfl⟩
  | cons step steps ih =>
      obtain ⟨n, hn, hparts⟩ := step.work_some visitor m
      obtain ⟨m', hm', h⟩ := ih n
      refine ⟨m', ?_, ?_⟩
      · rw [takeSteps, List.foldl_cons, hn]
        exact hm'
      · rw [List.foldl_cons, ← hparts]
        exact h

/-- Of the identities and of the containers that steps write the last one stays, and of the claims
all. -/
theorem foldl_after (steps : List Step) (p : Manifest.Parts) :
    steps.foldl (Manifest.Parts.after visitor) p =
      { p with
        identity := (steps.filterMap Step.identity?).getLast?.getD p.identity
        containers :=
          ((steps.filterMap (Step.container? visitor)).getLast?.map ([·])).getD p.containers
        claims := p.claims ++ steps.filterMap Step.claim? } := by
  induction steps generalizing p with
  | nil => simp
  | cons step steps ih =>
      rw [List.foldl_cons, ih, getLast?_filterMap_cons, getLast?_filterMap_cons,
        filterMap_cons_eq_append]
      simp only [Manifest.Parts.after, Option.getD_or, Option.map_or, List.append_assoc]

end Runs

/-! ## orders of one context -/

/-- Where one thing at most can be found, the order of a list does not matter to what is found. -/
theorem filterMap_eq_of_perm {α β : Type} {f : α → Option β} (only : Option β)
    (hf : ∀ a b, f a = some b → only = some b) {as as' : List α} (h : as.Perm as') :
    as.filterMap f = as'.filterMap f := by
  cases only with
  | none =>
      have hnone : ∀ l : List α, l.filterMap f = [] := by
        intro l
        rw [List.filterMap_eq_nil_iff]
        intro a _
        cases ha : f a with
        | none => rfl
        | some b => cases hf a b ha
      rw [hnone, hnone]
  | some c =>
      have hall : ∀ l : List α, ∀ b ∈ l.filterMap f, b = c := by
        intro l b hb
        obtain ⟨a, -, ha⟩ := List.mem_filterMap.mp hb
        exact (Option.some.inj (hf a b ha)).symm
      rw [List.eq_replicate_of_mem (hall as), List.eq_replicate_of_mem (hall as'),
        (h.filterMap f).length_eq]

/-- Stages in one context and in another order leave the same parts. -/
theorem foldl_after_perm (visitor : Settings → Visitor) (s : Settings) {order order' : List LaterStage}
    (h : order.Perm order') (p : Manifest.Parts) :
    (order.map (Step.mk · s)).foldl (Manifest.Parts.after visitor) p =
      (order'.map (Step.mk · s)).foldl (Manifest.Parts.after visitor) p := by
  have hidentity : order.filterMap (Step.identity? ∘ (Step.mk · s)) =
      order'.filterMap (Step.identity? ∘ (Step.mk · s)) := by
    refine filterMap_eq_of_perm (some s.identity) ?_ h
    intro stage i hi
    cases stage <;> simp_all [Step.identity?]
  have hcontainer : order.filterMap (Step.container? visitor ∘ (Step.mk · s)) =
      order'.filterMap (Step.container? visitor ∘ (Step.mk · s)) := by
    refine filterMap_eq_of_perm (assemble s.baseContainer (visitor s)).outcome.toOption ?_ h
    intro stage c hc
    cases stage <;> simp_all [Step.container?]
  have hclaim : order.filterMap (Step.claim? ∘ (Step.mk · s)) =
      order'.filterMap (Step.claim? ∘ (Step.mk · s)) := by
    refine filterMap_eq_of_perm
      ((Failure.parseQuantity s.capacity).toOption.map s.dataClaim) ?_ h
    intro stage c hc
    cases stage <;> simp_all [Step.claim?]
  rw [foldl_after, foldl_after]
  simp only [List.filterMap_map, hidentity, hcontainer, hclaim]

/-! ## main result -/

/-- A step that fails leaves the manifest as it was; after any steps the manifest has the identity
and the container that were written last, all claims that were added, and everything else as before;
and in one context the order of the stages does not matter. -/
theorem takeSteps_parts (visitor : Settings → Visitor) :
    (∀ (step : Step) (m : Manifest) (e : Failure) (m? : Option Manifest),
      step.work visitor (some m) = (.error e, m?) → m? = some m) ∧
    (∀ (step : Step) (m : Manifest), (step.work visitor (some m)).1 = .ok () ↔
      step.identity?.isSome ∨ (step.container? visitor).isSome ∨ step.claim?.isSome) ∧
    (∀ (steps : List Step) (m : Manifest), ∃ m', takeSteps visitor steps (some m) = some m' ∧
      m'.parts.identity = (steps.filterMap Step.identity?).getLast?.getD m.parts.identity ∧
      m'.parts.containers =
        ((steps.filterMap (Step.container? visitor)).getLast?.map ([·])).getD m.parts.containers ∧
      m'.parts.claims = m.parts.claims ++ steps.filterMap Step.claim? ∧
      m'.parts.remainder = m.parts.remainder) ∧
    (∀ (s : Settings) (order order' : List LaterStage) (m : Manifest), order.Perm order' →
      takeSteps visitor (order.map (Step.mk · s)) (some m) =
        takeSteps visitor (order'.map (Step.mk · s)) (some m)) := by
  refine ⟨?_, ?_, ?_, ?_⟩
  · intro step m e m? h
    exact Step.object_of_failed visitor h
  · intro step m
    exact step.succeeds_iff visitor m
  · intro steps m
    obtain ⟨m', hm', hparts⟩ := takeSteps_some visitor steps m
    rw [foldl_after] at hparts
    exact ⟨m', hm', by simp [hparts]⟩
  · intro s order order' m h
    obtain ⟨n, hn, hparts⟩ := takeSteps_some visitor (order.map (Step.mk · s)) m
    obtain ⟨n', hn', hparts'⟩ := takeSteps_some visitor (order'.map (Step.mk · s)) m
    have : n = n' := by
      apply Manifest.parts_injective
      rw [hparts, hparts', foldl_after_perm visitor s h]
    rw [hn, hn', this]

/-- A capacity that is no quantity adds no claim, and storage may come before the container. -/
theorem takeSteps_parts_refused_capacity :
    let refused : Step := ⟨.storageAttach, { capacity := "1 Gi" }⟩
    (refused.work Settings.serverVisitor (some {})).1 = .error (.quantity "1 Gi" .malformed) ∧
    (refused.work Settings.serverVisitor (some {})).2 = some {} ∧
    takeSteps Settings.serverVisitor
        [⟨.storageAttach, {}⟩, ⟨.baseIdentity, {}⟩, ⟨.containerAttach, {}⟩] (some {}) =
      takeSteps Settings.serverVisitor
        [⟨.baseIdentity, {}⟩, ⟨.containerAttach, {}⟩, ⟨.storageAttach, {}⟩] (some {}) := by
  obtain ⟨hfailed, -, -, horder⟩ := takeSteps_parts Settings.serverVisitor
  have hrefused : (LaterStage.storageWork { capacity := "1 Gi" } (some {})).1 =
      .error (.quantity "1 Gi" .malformed) := rfl
  refine ⟨hrefused, ?_, ?_⟩
  · exact hfailed ⟨.storageAttach, { capacity := "1 Gi" }⟩ {} _ _ (Prod.ext hrefused rfl)
  · exact horder {} [.storageAttach, .baseIdentity, .containerAttach] LaterStage.all {} (by decide)

end ControlPlane
