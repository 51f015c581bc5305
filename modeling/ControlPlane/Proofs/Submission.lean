import ControlPlane.Deployment.Cluster
import ControlPlane.Proofs.Build

/-!
# Installation

An installation builds the manifest once and submits it as often as it is asked to.  Whatever a
cluster answers, an attempt consists of a creation, and of a replacement if and only if the creation
met a conflict (`Attempt.Submits`); body, name and namespace are those of the one manifest
(`installStep_submits`).
-/

namespace ControlPlane

/-! ## what a body tells -/

namespace Manifest

/-- The body of a manifest tells its name. -/
@[simp] theorem metadataText?_name_toWire (m : Manifest) :
    m.toWire.metadataText? "name" = m.name := by
  obtain ⟨version, kind, ⟨name, namespaceName, labels⟩, spec⟩ := m
  cases name <;> cases namespaceName <;> cases labels <;> rfl

/-- The body of a manifest tells its namespace. -/
@[simp] theorem metadataText?_namespace_toWire (m : Manifest) :
    m.toWire.metadataText? "namespace" = m.metadata.namespaceName := by
  obtain ⟨version, kind, ⟨name, namespaceName, labels⟩, spec⟩ := m
  cases name <;> cases namespaceName <;> cases labels <;> rfl

end Manifest

/-! ## single attempts -/

/-- A creation comes first, a replacement follows if and only if there was a conflict, and nothing
else is asked for.  The attempt fails if and only if the last request was refused, and that refusal
is the cause. -/
structure Attempt.Submits (a : Attempt (Except Failure Unit)) (name namespaceName : String)
    (body : Wire) : Prop where
  requests : ∃ created rest, a.exchanges = ⟨.create namespaceName body, created⟩ :: rest ∧
    rest.map (·.request) =
      if (Exchange.mk (.create namespaceName body) created).isConflict then
        [.replace (some name) namespaceName body]
      else []
  failure : ∀ f, a.outcome = .error f ↔ ∃ request e,
    a.exchanges.getLast? = some ⟨request, .error e⟩ ∧ f = .deployment (some name) (.api e)

/-- A deployment submits its manifest, whatever the cluster answers. -/
theorem Deployment.submits {d : Deployment} {name : String} (hname : d.manifest.name = some name)
    (cluster : List Request → Request → Answer) (sent : List Request) :
    Attempt.Submits ⟨d.session.exchangesAfter cluster sent, (d.session.runAfter cluster sent).2⟩
      name d.namespaceName d.body := by
  rw [session_eq, Session.exchangesAfter, Session.runAfter]
  cases hcreated : cluster sent (.create d.namespaceName d.body) with
  | ok =>
      constructor
      · exact ⟨.ok (), [], rfl, rfl⟩
      · simp
  | error e =>
      dsimp only
      cases hconflict : e.isConflict with
      | false =>
          rw [if_neg (by simp), refusal, hname]
          constructor
          · exact ⟨.error e, [], rfl, by simp [Exchange.isConflict, hconflict]⟩
          · simp [eq_comm]
      | true =>
          rw [if_pos rfl, replacement, Session.exchangesAfter, Session.runAfter, hname]
          cases hreplaced : cluster (sent ++ [.create d.namespaceName d.body])
              (.replace (some name) d.namespaceName d.body) with
          | ok =>
              constructor
              · exact ⟨.error e, _, rfl, by simp [Exchange.isConflict, hconflict]⟩
              · simp
          | error e' =>
              simp only [refusal, hname]
              constructor
              · exact ⟨.error e, _, rfl, by simp [Exchange.isConflict, hconflict]⟩
              · simp [eq_comm]

/-! ## any number of attempts -/

@[simp] theorem Session.length_attempts {α : Type} (s : Session α) (sent : List Request)
    (clusters : List (List Request → Request → Answer)) :
    (s.attempts sent clusters).length = clusters.length := by
  induction clusters generalizing sent with
  | nil => rfl
  | cons cluster clusters ih => rw [attempts, List.length_cons, ih, List.length_cons]

/-- What holds of a conversation with any cluster holds of each attempt. -/
theorem Session.of_mem_attempts {α : Type} {s : Session α} {P : Attempt α → Prop}
    (h : ∀ cluster sent, P ⟨s.exchangesAfter cluster sent, (s.runAfter cluster sent).2⟩)
    {sent : List Request} {clusters : List (List Request → Request → Answer)} :
    ∀ a ∈ s.attempts sent clusters, P a := by
  induction clusters generalizing sent with
  | nil => simp [attempts]
  | cons cluster clusters ih =>
      intro a ha
      rw [attempts, List.mem_cons] at ha
      cases ha with
      | inl ha =>
          rw [ha]
          exact h cluster sent
      | inr ha => exact ih a ha

/-! ## the manifest that is submitted -/

/-- With any visitor, a finished manifest has the name of the control plane and the namespace of the
settings. -/
theorem Pipeline.metadata_of_build {visitor : Settings → Visitor} {s : Settings} {m : Manifest}
    (h : (standard visitor).build s = .ok m) :
    m.name = some Naming.statefulSet ∧ m.metadata.namespaceName = some s.namespaceName := by
  simp only [build, trace, StageName.all, run, step_allocate, step_baseIdentity,
    step_containerAttach] at h
  cases hassemble : (assemble s.baseContainer (visitor s)).outcome with
  | error e => simp [hassemble] at h
  | ok c =>
      simp only [hassemble, step_storageAttach] at h
      cases hcapacity : Failure.parseQuantity s.capacity with
      | error e => simp [hcapacity] at h
      | ok capacity =>
          simp only [hcapacity, Except.ok.injEq] at h
          rw [← h]
          constructor <;> rfl

/-! ## main result -/

/-- An installation fails with the build, and nothing is sent.  Or it is a step whose attempts, any
number of them and each with a cluster that answers as it likes, all submit the finished manifest
under its own name and in its own namespace, which is that of the settings. -/
theorem installStep_submits (visitor : Settings → Visitor) (s : Settings) :
    (∃ e, (Pipeline.standard visitor).build s = .error e ∧
      installStep s (Pipeline.standard visitor) = .error e) ∨
    ∃ m step name, (Pipeline.standard visitor).build s = .ok m ∧
      installStep s (Pipeline.standard visitor) = .ok step ∧
      m.name = some name ∧ m.toWire.metadataText? "name" = some name ∧
      m.toWire.metadataText? "namespace" = some s.namespaceName ∧
      ∀ sent clusters, (step.attempts sent clusters).length = clusters.length ∧
        ∀ a ∈ step.attempts sent clusters, a.Submits name s.namespaceName m.toWire := by
  unfold installStep
  cases hbuild : (Pipeline.standard visitor).build s with
  | error e => exact .inl ⟨e, rfl, rfl⟩
  | ok m =>
      obtain ⟨hname, hnamespace⟩ := Pipeline.metadata_of_build hbuild
      refine .inr ⟨m, deploy m s.namespaceName, Naming.statefulSet, rfl, rfl, hname, ?_, ?_, ?_⟩
      · rw [Manifest.metadataText?_name_toWire, hname]
      · rw [Manifest.metadataText?_namespace_toWire, hnamespace]
      · intro sent clusters
        have hsubmits := (Deployment.mk m s.namespaceName).submits hname
        exact ⟨Session.length_attempts _ sent clusters, Session.of_mem_attempts hsubmits⟩

end ControlPlane
