import ControlPlane.Proofs.Pipeline
import ControlPlane.Proofs.Server

/-!
# The finished manifest

A build succeeds if and only if the five quantities of its settings can be read, and the manifest
then says what the settings say (`Manifest.Fits`).  A build that fails reports the stage that failed,
with one exception: a capacity whose exponent has too many digits, or that is beyond decimal
arithmetic, is no failure of the library's own, and it leaves the pipeline unwrapped.
-/

namespace ControlPlane

/-! ## the four stages -/

/-- The manifest that the four stages make of a sizing and a capacity. -/
def Settings.finishedManifest (s : Settings) (r : ResourceRequirements) (capacity : Quantity) :
    Manifest :=
  ((({} : Manifest).withIdentity s).withContainer (s.serverContainer r)).withClaim
    (s.dataClaim capacity)

namespace Pipeline

variable (visitor : Settings → Visitor) (s : Settings)

/-- A stage that works on its draft hands it back as the work leaves it. -/
theorem step_ofWork {p : Pipeline} {name : StageName} {work : Settings → Work Unit}
    (h : p name = Stage.ofWork work) (d : Draft) :
    p.step s (some d) name = match work s (some d.manifest) with
      | (.ok (), some m) => .ok (some { d with manifest := m })
      | (.ok (), none) => .error (wrap name .absent)
      | (.error e, _) => .error (wrap name e) := by
  rcases hwork : work s (some d.manifest) with ⟨outcome, m?⟩
  cases outcome with
  | error e => exact step_of_error (by simp [h, Stage.ofWork, hwork])
  | ok =>
      cases m? with
      | none => exact step_of_error (by simp [h, Stage.ofWork, hwork])
      | some m => exact step_of_hands (.back (by simp [h, Stage.ofWork, hwork]))

theorem step_allocate : (standard visitor).step s none .allocate = .ok (some ⟨0, {}⟩) := rfl

theorem step_baseIdentity (d : Draft) :
    (standard visitor).step s (some d) .baseIdentity =
      .ok (some { d with manifest := d.manifest.withIdentity s }) := by
  rw [step_ofWork s rfl]
  rfl

theorem step_containerAttach (d : Draft) :
    (standard visitor).step s (some d) .containerAttach =
      match (assemble s.baseContainer (visitor s)).outcome with
      | .ok c => .ok (some { d with manifest := d.manifest.withContainer c })
      | .error e => .error (wrap .containerAttach e) := by
  rw [step_ofWork s rfl, LaterStage.work, LaterStage.containerWork_some]
  cases (assemble s.baseContainer (visitor s)).outcome with
  | ok c => rfl
  | error e => rfl

theorem step_storageAttach (d : Draft) :
    (standard visitor).step s (some d) .storageAttach =
      match Failure.parseQuantity s.capacity with
      | .ok capacity => .ok (some { d with manifest := d.manifest.withClaim (s.dataClaim capacity) })
      | .error e => .error (wrap .storageAttach e) := by
  rw [step_ofWork s rfl, LaterStage.work, LaterStage.storageWork_some]
  cases Failure.parseQuantity s.capacity with
  | ok capacity => rfl
  | error e => rfl

end Pipeline

/-- A build is decided by its sizing and its capacity, in this order. -/
theorem Settings.buildManifest_eq (s : Settings) :
    s.buildManifest = match s.serverResources with
      | .error e => .error (.stageCaused "ContainerAttach"
          (.assembly "easegress" .resourceRequirements e))
      | .ok r => match Failure.parseQuantity s.capacity with
        | .error e => .error (Pipeline.wrap .storageAttach e)
        | .ok capacity => .ok (s.finishedManifest r capacity) := by
  simp only [buildManifest, Pipeline.build, Pipeline.trace, StageName.all, Pipeline.run,
    Pipeline.step_allocate, Pipeline.step_baseIdentity, Pipeline.step_containerAttach,
    outcome_assemble_server]
  cases s.serverResources with
  | error e => rfl
  | ok r =>
      simp only [Pipeline.step_storageAttach]
      cases Failure.parseQuantity s.capacity with
      | error e => rfl
      | ok capacity => rfl

/-! ## what a manifest says about settings -/

/-- The image behind its registry, whose slashes at the end are not written; without a registry it
stands alone. -/
def Settings.RefersTo (s : Settings) (image : String) : Prop :=
  ∃ registry slashes : List Char, s.imageRegistry.toList = registry ++ slashes ∧
    (∀ c ∈ slashes, c = '/') ∧ registry.getLast? ≠ some '/' ∧
    image.toList =
      if registry = [] then s.imageName.toList else registry ++ '/' :: s.imageName.toList

/-- A container has the image, the ports and the sizing of the settings, and each of its mounts is
the name of exactly one object of the storage. -/
structure Container.Fits (c : Container) (s : Settings) (storage : List String) : Prop where
  image : s.RefersTo c.image
  ports : ∃ ports, c.ports = some (.proper ports) ∧
    ports.map (·.containerPort) = [s.adminPort, s.clientPort, s.peerPort]
  resources : ∃ r, c.resources = some (.proper r) ∧
    ResourceRequirements.shape.write r = s.sizingWire
  mounts : ∃ mounts, c.volumeMounts = some (.proper mounts) ∧ mounts ≠ [] ∧
    ∀ mount ∈ mounts, storage.count mount.name = 1

/-- A claim asks for the capacity of the settings in their storage class. -/
structure PersistentVolumeClaim.Fits (claim : PersistentVolumeClaim) (s : Settings) : Prop where
  storageClass : claim.spec.storageClassName = some s.storageClass
  capacity : ResourceRequirements.shape.write claim.spec.resources =
    .object [("requests", .object [("storage", .text s.capacity)])]

namespace Manifest

/-- The names of what the pods can mount: their volumes, and what the claims give them. -/
def storageNames (m : Manifest) : List String :=
  (m.spec.template.spec.volumes.getD []).map (·.name) ++
    m.spec.volumeClaimTemplates.filterMap (·.metadata.name)

/-- A manifest says what the settings say, with one container, one claim and consistent labels. -/
structure Fits (m : Manifest) (s : Settings) : Prop where
  replicas : m.spec.replicas = some s.replicas
  namespaceName : m.metadata.namespaceName = some s.namespaceName
  labels : ∃ labels, m.spec.selector = some { matchLabels := labels } ∧
    m.spec.template.metadata.labels = some labels
  container : ∃ c, m.containers = [c] ∧ c.Fits s m.storageNames
  claim : ∃ claim, m.spec.volumeClaimTemplates = [claim] ∧ claim.Fits s

end Manifest

/-- A list is what is left without a run at its end, and that run. -/
theorem Text.trimEnd_append (p : Char → Bool) (cs : List Char) :
    ∃ run, cs = trimEnd p cs ++ run ∧ (∀ c ∈ run, p c = true) ∧
      ∀ c, (trimEnd p cs).getLast? = some c → p c = false := by
  refine ⟨cs.rtakeWhile p, List.rdropWhile_append_rtakeWhile.symm, ?_, ?_⟩
  · intro c hc
    exact List.mem_rtakeWhile_imp hc
  · intro c hc
    have hne : cs.rdropWhile p ≠ [] := by
      intro h
      rw [show trimEnd p cs = cs.rdropWhile p from rfl, h] at hc
      cases hc
    have hlast := List.rdropWhile_last_not p cs hne
    rw [show trimEnd p cs = cs.rdropWhile p from rfl, List.getLast?_eq_some_getLast hne] at hc
    rw [Option.some.inj hc] at hlast
    simpa using hlast

namespace Settings

theorem refersTo_image (s : Settings) : s.RefersTo s.image := by
  obtain ⟨slashes, happend, hslashes, hlast⟩ :=
    Text.trimEnd_append (· == '/') s.imageRegistry.toList
  refine ⟨_, slashes, happend, ?_, ?_, ?_⟩
  · intro c hc
    simpa using hslashes c hc
  · intro h
    have := hlast '/' h
    simp at this
  · rw [image]
    by_cases h : Text.trimEnd (· == '/') s.imageRegistry.toList = []
    · simp [h]
    · simp [h]

/-- The container mounts the data claim and the configuration volume, once each. -/
theorem fits_serverContainer {s : Settings} {r : ResourceRequirements}
    (hr : ResourceRequirements.shape.write r = s.sizingWire) :
    (s.serverContainer r).Fits s [Naming.configMap, Naming.dataVolume] where
  image := by
    simp only [serverContainer, baseContainer]
    exact s.refersTo_image
  ports := ⟨s.serverPorts, rfl, rfl⟩
  resources := ⟨r, rfl, hr⟩
  mounts := by
    refine ⟨serverMounts, rfl, by simp [serverMounts], ?_⟩
    intro mount hmount
    simp only [serverMounts, List.mem_cons, List.not_mem_nil, or_false] at hmount
    cases hmount with
    | inl h => rw [h]; simp [Naming.configMap, Naming.dataVolume]
    | inr h => rw [h]; simp [Naming.configMap, Naming.dataVolume]

theorem fits_dataClaim {s : Settings} {capacity : Quantity}
    (h : Quantity.parse s.capacity = .ok capacity) : (s.dataClaim capacity).Fits s where
  storageClass := rfl
  capacity := by
    simp [dataClaim, ResourceRequirements.shape, Shape.write, Fields.write, FieldKeys.one,
      RecordStyle.kube, Absent.entry, Quantity.text_of_parse h]

theorem fits_finishedManifest {s : Settings} {r : ResourceRequirements} {capacity : Quantity}
    (hr : ResourceRequirements.shape.write r = s.sizingWire)
    (h : Quantity.parse s.capacity = .ok capacity) : (s.finishedManifest r capacity).Fits s where
  replicas := rfl
  namespaceName := rfl
  labels := ⟨Naming.labels, rfl, rfl⟩
  container := ⟨s.serverContainer r, rfl, fits_serverContainer hr⟩
  claim := ⟨s.dataClaim capacity, rfl, fits_dataClaim h⟩

/-! ## main results -/

/-- The texts of settings that have to be quantities. -/
def quantityTexts (s : Settings) : List String := s.sizingTexts ++ [s.capacity]

/-- A build succeeds if and only if all five texts are quantities, whatever else the settings are,
and the manifest then fits the settings. -/
theorem buildManifest_ok_iff (s : Settings) :
    ((∃ m, s.buildManifest = .ok m) ↔ ∀ t ∈ s.quantityTexts, ∃ q, Quantity.parse t = .ok q) ∧
    (∀ m, s.buildManifest = .ok m → m.Fits s) := by
  have htexts : (∀ t ∈ s.quantityTexts, ∃ q, Quantity.parse t = .ok q) ↔
      Quantity.firstFlaw? s.sizingTexts = none ∧ ∃ q, Quantity.parse s.capacity = .ok q := by
    simp only [Quantity.firstFlaw?_eq_none_iff, quantityTexts, List.forall_mem_append,
      List.forall_mem_singleton]
  rw [htexts, buildManifest_eq]
  obtain ⟨flaw, hflaw, hresources⟩ | ⟨hnone, r, hresources, hwire⟩ := s.serverResources_cases
  · simp [hflaw, hresources]
  · cases hcapacity : Quantity.parse s.capacity with
    | error flaw => simp [hresources, Failure.parseQuantity_of_error hcapacity]
    | ok capacity =>
        simp only [hresources, Failure.parseQuantity_of_ok hcapacity]
        refine ⟨⟨fun _ => ⟨hnone, capacity, rfl⟩, fun _ => ⟨_, rfl⟩⟩, ?_⟩
        intro m hm
        rw [← Except.ok.inj hm]
        exact fits_finishedManifest hwire hcapacity

/-- A registry that ends in slashes, no replicas and a capacity with an exponent. -/
theorem buildManifest_ok_iff_slashes :
    let s : Settings := { imageRegistry := "ghcr.io//", replicas := 0, capacity := "1.5e3" }
    ∃ m, s.buildManifest = .ok m ∧ m.Fits s := by
  intro s
  obtain ⟨hiff, hfits⟩ := buildManifest_ok_iff s
  have htexts : ∀ t ∈ s.quantityTexts, ∃ q, Quantity.parse t = .ok q := by
    rw [← Quantity.firstFlaw?_eq_none_iff]
    decide +kernel
  obtain ⟨m, hm⟩ := hiff.mpr htexts
  exact ⟨m, hm, hfits m hm⟩

/-- The one failure of a build that is not one of a stage is a capacity whose exponent has too many
digits, or that decimal arithmetic cannot hold.  Otherwise the stage that needs the first bad quantity
fails, with that as its cause. -/
theorem buildManifest_error (s : Settings) :
    ((∃ e, s.buildManifest = .error e ∧ e.isStageFailure = false) ↔
      (∀ t ∈ s.sizingTexts, ∃ q, Quantity.parse t = .ok q) ∧
        ((∃ digits, Quantity.parse s.capacity = .error (.longExponent digits)) ∨
          ∃ fault, Quantity.parse s.capacity = .error (.arithmetic fault))) ∧
    (∀ flaw, Quantity.firstFlaw? s.sizingTexts = some flaw →
      s.buildManifest = .error (.stageCaused "ContainerAttach"
        (.assembly "easegress" .resourceRequirements (.ofQuantity flaw)))) ∧
    (∀ flaw, (∀ t ∈ s.sizingTexts, ∃ q, Quantity.parse t = .ok q) →
      Quantity.parse s.capacity = .error flaw →
      s.buildManifest = .error (match flaw with
        | .unreadable text why => .stageCaused "StorageAttach" (.quantity text why)
        | .longExponent digits => .longExponent digits
        | .arithmetic fault => .arithmetic fault)) := by
  rw [← Quantity.firstFlaw?_eq_none_iff, buildManifest_eq]
  obtain ⟨flaw, hflaw, hresources⟩ | ⟨hnone, r, hresources, -⟩ := s.serverResources_cases
  · simp [hflaw, hresources, Failure.isStageFailure]
  · cases hcapacity : Quantity.parse s.capacity with
    | ok capacity => simp [hnone, hresources, Failure.parseQuantity_of_ok hcapacity]
    | error flaw =>
        rw [hresources, Failure.parseQuantity_of_error hcapacity]
        cases flaw with
        | unreadable text why =>
            simp [hnone, Failure.ofQuantity, Pipeline.wrap, Failure.isStageFailure,
              Failure.isManifestFailure, StageName.text]
        | _ =>
            simp [hnone, Failure.ofQuantity, Pipeline.wrap, Failure.isStageFailure,
              Failure.isManifestFailure]

/-- With the default sizing, `1e1000000` is a capacity that leaves the pipeline unwrapped; as a limit
it is the cause of a failed stage. -/
theorem buildManifest_error_overflow :
    buildManifest { capacity := "1e1000000" } = .error (.arithmetic .overflow) ∧
    buildManifest { resources := { cpuLimit := "1e1000000" } } =
      .error (.stageCaused "ContainerAttach"
        (.assembly "easegress" .resourceRequirements (.arithmetic .overflow))) := by
  constructor
  · obtain ⟨-, -, hcapacity⟩ := buildManifest_error { capacity := "1e1000000" }
    refine hcapacity (.arithmetic .overflow) ?_ ?_
    · rw [← Quantity.firstFlaw?_eq_none_iff]
      decide +kernel
    · rw [← Quantity.flaw?_eq_some_iff]
      decide +kernel
  · obtain ⟨-, hsizing, -⟩ := buildManifest_error { resources := { cpuLimit := "1e1000000" } }
    exact hsizing (.arithmetic .overflow) (by decide +kernel)

end Settings

end ControlPlane
