import ControlPlane.Manifest.Workload
import ControlPlane.Shape.Read

/-!
# The models by name

Every type of the manifest that can be read and written on its own, under the name that messages
give it.  `Model.normalize` reads a value as a model and writes it again.
-/

namespace ControlPlane

/-- A type with its shape. -/
structure Model where
  name : String
  Carrier : Type
  shape : Shape Carrier

namespace Model

/-- The shape of an object without fields. -/
def bare : Shape Unit := .record (.kube "KubeModel") .nil { pack := id, unpack := id }

/-- Every model. -/
def all : List Model :=
  [⟨"KubeModel", _, bare⟩,
   ⟨"ObjectMeta", _, ObjectMeta.shape⟩,
   ⟨"ContainerPort", _, ContainerPort.shape⟩,
   ⟨"ObjectFieldSelector", _, ObjectFieldSelector.shape⟩,
   ⟨"EnvVarSource", _, EnvVarSource.shape⟩,
   ⟨"EnvVar", _, EnvVar.shape⟩,
   ⟨"ConfigMapEnvSource", _, ConfigMapEnvSource.shape⟩,
   ⟨"EnvFromSource", _, EnvFromSource.shape⟩,
   ⟨"ResourceRequirements", _, ResourceRequirements.shape⟩,
   ⟨"VolumeMount", _, VolumeMount.shape⟩,
   ⟨"VolumeDevice", _, VolumeDevice.shape⟩,
   ⟨"ExecAction", _, ExecAction.shape⟩,
   ⟨"HTTPGetAction", _, HttpGetAction.shape⟩,
   ⟨"TCPSocketAction", _, TcpSocketAction.shape⟩,
   ⟨"Probe", _, Probe.shape⟩,
   ⟨"LifecycleHandler", _, LifecycleHandler.shape⟩,
   ⟨"Lifecycle", _, Lifecycle.shape⟩,
   ⟨"SecurityContext", _, SecurityContext.shape⟩,
   ⟨"ContainerDescriptor", _, Container.shape⟩,
   ⟨"LabelSelector", _, LabelSelector.shape⟩,
   ⟨"ConfigMapVolumeSource", _, ConfigMapVolumeSource.shape⟩,
   ⟨"Volume", _, Volume.shape⟩,
   ⟨"PodSpec", _, PodSpec.shape⟩,
   ⟨"PodTemplate", _, PodTemplate.shape⟩,
   ⟨"PersistentVolumeClaimSpec", _, PersistentVolumeClaimSpec.shape⟩,
   ⟨"PersistentVolumeClaim", _, PersistentVolumeClaim.shape⟩,
   ⟨"StatefulSetSpec", _, StatefulSetSpec.shape⟩,
   ⟨"WorkloadManifest", _, Manifest.shape⟩]

/-- The model with a name. -/
def named? (name : String) : Option Model := all.find? fun m => m.name == name

/-- A value read as the model and written again. -/
def normalize (m : Model) (v : Value) : Reading Wire := (m.shape.read v).map m.shape.write

end Model

end ControlPlane
