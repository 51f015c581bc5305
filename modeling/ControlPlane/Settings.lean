import ControlPlane.Manifest.Container
import ControlPlane.Naming
import ControlPlane.Shape.Read
import ControlPlane.Shape.Write

/-!
# Settings of an installation

The resolved configuration that one manifest is built from.  `Settings.read` reads a mapping into
settings: every field by its shape, and then the peer addresses against the number of replicas.
What the outcome is sure to satisfy is `Settings.Valid`.

Settings are read-only as far as names are guarded: `Settings.assign` tells what becomes of an
assignment.
-/

namespace ControlPlane

/-- Processor and memory sizing of the container.  The texts are read as quantities only when the
container is put together. -/
structure ResourcePolicy where
  cpuRequest : String := "100m"
  cpuLimit : String := "1000m"
  memoryRequest : String := "1Gi"
  memoryLimit : String := "2Gi"
  deriving DecidableEq, Repr

/-- How settings are written: unknown keys are refused, and absent values are nulls. -/
def RecordStyle.settings (name : String) : RecordStyle := ⟨name, .refused, .kept⟩

/-- The shape of a resource policy. -/
def ResourcePolicy.shape : Shape ResourcePolicy :=
  .record (.settings "ResourcePolicy")
    (.defaulted (.one "cpu_request") (.text 0) "100m" <|
     .defaulted (.one "cpu_limit") (.text 0) "1000m" <|
     .defaulted (.one "memory_request") (.text 0) "1Gi" <|
     .defaulted (.one "memory_limit") (.text 0) "2Gi" <|
     .nil)
    { pack := fun (cpuRequest, cpuLimit, memoryRequest, memoryLimit, ()) =>
        ⟨cpuRequest, cpuLimit, memoryRequest, memoryLimit⟩
      unpack := fun p => (p.cpuRequest, p.cpuLimit, p.memoryRequest, p.memoryLimit, ()) }

/-- The settings of an installation. -/
structure Settings where
  namespaceName : String := "easemesh"
  imageRegistry : String := "docker.io"
  imageName : String := "megaease/easegress:server-sidecar"
  pullPolicy : PullPolicy := .ifNotPresent
  adminPort : Int := 2381
  clientPort : Int := 2379
  peerPort : Int := 2380
  peerAddresses : Option (List String) := none
  replicas : Int := 3
  storageClass : String := "easemesh-storage"
  capacity : String := "3Gi"
  resources : ResourcePolicy := {}
  deriving DecidableEq, Repr

namespace Settings

/-- A number of a port. -/
def portBounds : Bounds := ⟨none, some 0, some 65536⟩

/-- A number of replicas. -/
def replicaBounds : Bounds := ⟨some 0, none, none⟩

/-- The shape of settings. -/
def shape : Shape Settings :=
  .record (.settings "StageContext")
    (.defaulted (.one "namespace") (.text 1) "easemesh" <|
     .defaulted (.one "image_registry_url") (.text 0) "docker.io" <|
     .defaulted (.one "easegress_image") (.text 1) "megaease/easegress:server-sidecar" <|
     .defaulted (.one "image_pull_policy") PullPolicy.shape .ifNotPresent <|
     .defaulted (.one "admin_port") (.integer portBounds) 2381 <|
     .defaulted (.one "client_port") (.integer portBounds) 2379 <|
     .defaulted (.one "peer_port") (.integer portBounds) 2380 <|
     .optional (.one "peer_addresses") (.tuple (.text 0)) <|
     .defaulted (.one "replicas") (.integer replicaBounds) 3 <|
     .defaulted (.one "storage_class_name") (.text 0) "easemesh-storage" <|
     .defaulted (.one "persist_volume_capacity") (.text 0) "3Gi" <|
     .defaulted (.one "resources") ResourcePolicy.shape {} <|
     .nil)
    { pack := fun (namespaceName, imageRegistry, imageName, pullPolicy, adminPort, clientPort,
          peerPort, peerAddresses, replicas, storageClass, capacity, resources, ()) =>
        ⟨namespaceName, imageRegistry, imageName, pullPolicy, adminPort, clientPort, peerPort,
          peerAddresses, replicas, storageClass, capacity, resources⟩
      unpack := fun s => (s.namespaceName, s.imageRegistry, s.imageName, s.pullPolicy, s.adminPort,
        s.clientPort, s.peerPort, s.peerAddresses, s.replicas, s.storageClass, s.capacity,
        s.resources, ()) }

/-! ## reading and writing -/

/-- Whether a text holds nothing but white space. -/
def isBlankText (s : String) : Bool := s.toList.all Text.isBlank

/-- What is wrong with the peer addresses as a whole, if anything. -/
def peerProblem? (s : Settings) : Option String :=
  match s.peerAddresses with
  | none => none
  | some addresses =>
    if addresses.any isBlankText then some "peer_addresses must not contain empty entries"
    else if (addresses.length : Int) = s.replicas then none
    else if Integer.isPrintable s.replicas then
      some ("peer_addresses has " ++ toString addresses.length ++
        " entries, expected one per replica (" ++ toString s.replicas ++ ")")
    else some (Integer.limitMessage "")

/-- Settings whose peer addresses are one per replica. -/
def check (s : Settings) : Reading Settings :=
  match s.peerProblem? with
  | some message => .refuse (.refused message)
  | none => .ok s

/-- Settings read from a value. -/
def read (v : Value) : Reading Settings :=
  match shape.read v with
  | .ok s => s.check
  | .error r => .error r

/-- The wire form of settings. -/
def toWire (s : Settings) : Wire := shape.write s

/-- What all settings satisfy that were read. -/
structure Valid (s : Settings) : Prop where
  namespaceName : s.namespaceName ≠ ""
  imageName : s.imageName ≠ ""
  adminPort : 0 < s.adminPort ∧ s.adminPort < 65536
  clientPort : 0 < s.clientPort ∧ s.clientPort < 65536
  peerPort : 0 < s.peerPort ∧ s.peerPort < 65536
  replicas : 0 ≤ s.replicas
  peerCount : ∀ addresses, s.peerAddresses = some addresses → (addresses.length : Int) = s.replicas
  peerBlank : ∀ addresses, s.peerAddresses = some addresses →
    ∀ a ∈ addresses, isBlankText a = false

/-- Whether assignments to a name are guarded.  A name that starts with an underscore stands for an
inner part of the object that holds the settings, and such parts are not. -/
def isGuarded (name : String) : Bool := name.toList.head? != some '_'

/-- The keys of the fields. -/
def fieldNames : List String :=
  match Settings.toWire {} with
  | .object es => es.map (·.1)
  | _ => []

/-- What becomes of an assignment. -/
inductive Assignment where
  /-- It is refused for this problem of the name, and nothing changes. -/
  | refused (p : Problem)
  /-- The value is not of the kind that the name stands for, and nothing changes. -/
  | unfit
  /-- The fields are these from now on, whatever was said of their values. -/
  | replaced (entries : List (String × Wire))
  /-- It reaches an inner part, and nothing is told of what the settings are from now on. -/
  | unguarded

/-- An assignment to a name.  A guarded name is refused, be it a field or not.  Of the others one is
the table of all fields; what the rest of them do is left open. -/
def assign (name : String) (v : Value) : Assignment :=
  if isGuarded name then .refused (.under (.key name) (.here .frozen))
  else if name = "__dict__" then
    match v with
    | .map given =>
      if given.all fun e => e.1.isText then
        .replaced ((Value.toWireEntries given).filter fun e => fieldNames.contains e.1)
      else .unguarded
    | _ => .unfit
  else .unguarded

/-- What settings show after an assignment, given what they showed before, as far as it is told. -/
def Assignment.after? (shown : Wire) : Assignment → Option Wire
  | .refused _ | .unfit => some shown
  | .replaced entries => some (.object entries)
  | .unguarded => none

/-- What settings show after assignments, one after the other, as far as it is told. -/
def shownAfter? (s : Settings) (assignments : List (String × Value)) : Option Wire :=
  assignments.foldlM (fun shown a => (assign a.1 a.2).after? shown) s.toWire

/-! ## derived settings -/

/-- The full reference of the image, behind the registry if there is one. -/
def image (s : Settings) : String :=
  let registry := String.ofList (Text.trimEnd (· == '/') s.imageRegistry.toList)
  if registry.isEmpty then s.imageName else registry ++ "/" ++ s.imageName

/-- The hosts of the members: the peer addresses, or the host names of the replicas' pods. -/
def peerHosts (s : Settings) : List String :=
  match s.peerAddresses with
  | some addresses => addresses
  | none => (List.range s.replicas.toNat).map fun (i : Nat) =>
      Naming.podHost (Naming.replicaPod i) s.namespaceName

/-- The members with their hosts.  A member has the name of its pod. -/
def peerMembers (s : Settings) : List (String × String) :=
  s.peerHosts.zipIdx.map fun (host, i) => (Naming.replicaPod i, host)

end Settings

end ControlPlane
