import ControlPlane.Manifest.Container
import ControlPlane.Manifest.Metadata
import ControlPlane.Shape.Write

/-!
# The workload manifest

The stateful workload that is submitted to the cluster: metadata, a selector, a pod template with
volumes and containers, and claims for storage.  A manifest without contents has every part in
place, so that stages can fill in their fields.
-/

namespace ControlPlane

/-- How a volume may be accessed. -/
inductive AccessMode where
  | readWriteOnce
  | readOnlyMany
  | readWriteMany
  deriving DecidableEq, Repr

namespace AccessMode

/-- The texts of the access modes. -/
def choice : Choice AccessMode where
  values := [.readWriteOnce, .readOnlyMany, .readWriteMany]
  text
    | .readWriteOnce => "ReadWriteOnce"
    | .readOnlyMany => "ReadOnlyMany"
    | .readWriteMany => "ReadWriteMany"
  find a := by cases a <;> decide

/-- The shape of an access mode. -/
def shape : Shape AccessMode := .choice choice

end AccessMode

/-- Which pods belong to the workload. -/
structure LabelSelector where
  matchLabels : Labels := []

/-- The shape of a label selector. -/
def LabelSelector.shape : Shape LabelSelector :=
  .record (.kube "LabelSelector")
    (.defaulted (.either "matchLabels" "match_labels") (.map (.text 0)) [] <|
     .nil)
    { pack := fun (matchLabels, ()) => ⟨matchLabels⟩
      unpack := fun s => (s.matchLabels, ()) }

/-- A config map, by its name. -/
structure ConfigMapVolumeSource where
  name : String

/-- The shape of a config map as a volume. -/
def ConfigMapVolumeSource.shape : Shape ConfigMapVolumeSource :=
  .record (.kube "ConfigMapVolumeSource")
    (.required (.one "name") (.text 0) <|
     .nil)
    { pack := fun (name, ()) => ⟨name⟩
      unpack := fun s => (s.name, ()) }

/-- A volume of the pod. -/
structure Volume where
  name : String
  configMap : Option ConfigMapVolumeSource := none

/-- The shape of a volume. -/
def Volume.shape : Shape Volume :=
  .record (.kube "Volume")
    (.required (.one "name") (.text 0) <|
     .optional (.either "configMap" "config_map") ConfigMapVolumeSource.shape <|
     .nil)
    { pack := fun (name, configMap, ()) => ⟨name, configMap⟩
      unpack := fun v => (v.name, v.configMap, ()) }

/-- What a pod consists of. -/
structure PodSpec where
  volumes : Option (List Volume) := none
  containers : List Container := []

/-- The shape of a pod's contents. -/
def PodSpec.shape : Shape PodSpec :=
  .record (.kube "PodSpec")
    (.optional (.one "volumes") (.list Volume.shape) <|
     .defaulted (.one "containers") (.list Container.shape) [] <|
     .nil)
    { pack := fun (volumes, containers, ()) => ⟨volumes, containers⟩
      unpack := fun s => (s.volumes, s.containers, ()) }

/-- What the pods of the workload look like. -/
structure PodTemplate where
  metadata : ObjectMeta := {}
  spec : PodSpec := {}

/-- The shape of a pod template. -/
def PodTemplate.shape : Shape PodTemplate :=
  .record (.kube "PodTemplate")
    (.defaulted (.one "metadata") ObjectMeta.shape {} <|
     .defaulted (.one "spec") PodSpec.shape {} <|
     .nil)
    { pack := fun (metadata, spec, ()) => ⟨metadata, spec⟩
      unpack := fun t => (t.metadata, t.spec, ()) }

/-- The storage that a claim asks for. -/
structure PersistentVolumeClaimSpec where
  accessModes : List AccessMode := []
  storageClassName : Option String := none
  resources : ResourceRequirements := {}

/-- The shape of a claim's contents. -/
def PersistentVolumeClaimSpec.shape : Shape PersistentVolumeClaimSpec :=
  .record (.kube "PersistentVolumeClaimSpec")
    (.defaulted (.either "accessModes" "access_modes") (.list AccessMode.shape) [] <|
     .optional (.either "storageClassName" "storage_class_name") (.text 0) <|
     .defaulted (.one "resources") ResourceRequirements.shape {} <|
     .nil)
    { pack := fun (accessModes, storageClassName, resources, ()) =>
        ⟨accessModes, storageClassName, resources⟩
      unpack := fun s => (s.accessModes, s.storageClassName, s.resources, ()) }

/-- A claim for storage, one per replica. -/
structure PersistentVolumeClaim where
  metadata : ObjectMeta := {}
  spec : PersistentVolumeClaimSpec := {}

/-- The shape of a claim. -/
def PersistentVolumeClaim.shape : Shape PersistentVolumeClaim :=
  .record (.kube "PersistentVolumeClaim")
    (.defaulted (.one "metadata") ObjectMeta.shape {} <|
     .defaulted (.one "spec") PersistentVolumeClaimSpec.shape {} <|
     .nil)
    { pack := fun (metadata, spec, ()) => ⟨metadata, spec⟩
      unpack := fun c => (c.metadata, c.spec, ()) }

/-- What the workload consists of. -/
structure StatefulSetSpec where
  serviceName : Option String := none
  selector : Option LabelSelector := none
  replicas : Option Int := none
  template : PodTemplate := {}
  volumeClaimTemplates : List PersistentVolumeClaim := []

/-- The shape of the workload's contents. -/
def StatefulSetSpec.shape : Shape StatefulSetSpec :=
  .record (.kube "StatefulSetSpec")
    (.optional (.either "serviceName" "service_name") (.text 0) <|
     .optional (.one "selector") LabelSelector.shape <|
     .optional (.one "replicas") (.integer .none) <|
     .defaulted (.one "template") PodTemplate.shape {} <|
     .defaulted (.either "volumeClaimTemplates" "volume_claim_templates")
       (.list PersistentVolumeClaim.shape) [] <|
     .nil)
    { pack := fun (serviceName, selector, replicas, template, volumeClaimTemplates, ()) =>
        ⟨serviceName, selector, replicas, template, volumeClaimTemplates⟩
      unpack := fun s => (s.serviceName, s.selector, s.replicas, s.template,
        s.volumeClaimTemplates, ()) }

/-- The manifest of a stateful workload. -/
structure Manifest where
  apiVersion : String := "apps/v1"
  kind : String := "StatefulSet"
  metadata : ObjectMeta := {}
  spec : StatefulSetSpec := {}

namespace Manifest

/-- The shape of a manifest. -/
def shape : Shape Manifest :=
  .record (.kube "WorkloadManifest")
    (.defaulted (.either "apiVersion" "api_version") (.text 0) "apps/v1" <|
     .defaulted (.one "kind") (.text 0) "StatefulSet" <|
     .defaulted (.one "metadata") ObjectMeta.shape {} <|
     .defaulted (.one "spec") StatefulSetSpec.shape {} <|
     .nil)
    { pack := fun (apiVersion, kind, metadata, spec, ()) => ⟨apiVersion, kind, metadata, spec⟩
      unpack := fun m => (m.apiVersion, m.kind, m.metadata, m.spec, ()) }

/-- The wire form of a manifest. -/
def toWire (m : Manifest) : Wire := shape.write m

/-! ## views -/

/-- The name of the workload. -/
def name (m : Manifest) : Option String := m.metadata.name

/-- The name as a message or a path shows it. -/
def shownName (m : Manifest) : String := m.name.getD "None"

/-- The labels that select the workload's pods; none without a selector. -/
def selectorLabels (m : Manifest) : Labels :=
  match m.spec.selector with
  | some s => s.matchLabels
  | none => []

/-- The labels that the workload's pods carry. -/
def templateLabels (m : Manifest) : Labels := m.spec.template.metadata.labels.getD []

/-- The containers of the workload's pods. -/
def containers (m : Manifest) : List Container := m.spec.template.spec.containers

/-! ## setting labels -/

/-- The manifest with a label of its selector set; without a selector nothing changes. -/
def setSelectorLabel (m : Manifest) (key value : String) : Manifest :=
  { m with spec := { m.spec with
      selector := m.spec.selector.map fun s =>
        { s with matchLabels := Entries.put (· == ·) key value s.matchLabels } } }

/-- The manifest with a label of its pods set; pods that carry no labels get none. -/
def setTemplateLabel (m : Manifest) (key value : String) : Manifest :=
  { m with spec := { m.spec with template := { m.spec.template with
      metadata := { m.spec.template.metadata with
        labels := m.spec.template.metadata.labels.map fun labels =>
          if labels.isEmpty then labels else Entries.put (· == ·) key value labels } } } }

end Manifest

end ControlPlane
