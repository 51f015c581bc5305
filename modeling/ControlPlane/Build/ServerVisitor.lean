import ControlPlane.Build.Assembly
import ControlPlane.Settings

/-!
# The visitor of the control plane server

What the settings put into the container of the server: its command line, ports, environment, sizing
and mounts.
-/

namespace ControlPlane

namespace Settings

/-- The address under which a pod announces itself.  The pod puts in its own name when it starts. -/
def advertisedUrl (s : Settings) (port : Int) : String :=
  Naming.memberUrl (Naming.podHost ("$(" ++ Naming.podNameVariable ++ ")") s.namespaceName)
    (toString port)

/-- The list of all members. -/
def initialCluster (s : Settings) : String :=
  Naming.initialCluster s.peerMembers (toString s.peerPort)

/-- The command of the server. -/
def serverCommand : List String := [Naming.serverBinary]

/-- The arguments of the server. -/
def serverArgs (s : Settings) : List String :=
  ["-f", Naming.configMountPath,
   "--advertise-client-urls", s.advertisedUrl s.clientPort,
   "--initial-advertise-peer-urls", s.advertisedUrl s.peerPort,
   "--initial-cluster", s.initialCluster]

/-- The ports of the server. -/
def serverPorts (s : Settings) : List ContainerPort :=
  [{ name := Naming.adminPort, containerPort := s.adminPort },
   { name := Naming.clientPort, containerPort := s.clientPort },
   { name := Naming.peerPort, containerPort := s.peerPort }]

/-- The environment of the server: its pod's name.  Options of the cluster are arguments, because
the empty fields of the server's own configuration file would win over variables. -/
def serverEnv : List EnvVar :=
  [{ name := Naming.podNameVariable
     valueFrom := some { fieldRef := some { fieldPath := "metadata.name" } } }]

/-- The sizing of the server; the first text that is no quantity is the one refused. -/
def serverResources (s : Settings) : Except Failure ResourceRequirements := do
  let cpuRequest ← Failure.parseQuantity s.resources.cpuRequest
  let memoryRequest ← Failure.parseQuantity s.resources.memoryRequest
  let cpuLimit ← Failure.parseQuantity s.resources.cpuLimit
  let memoryLimit ← Failure.parseQuantity s.resources.memoryLimit
  return { requests := some [("cpu", cpuRequest), ("memory", memoryRequest)]
           limits := some [("cpu", cpuLimit), ("memory", memoryLimit)] }

/-- The mounts of the server: its data, and one file of the config map. -/
def serverMounts : List VolumeMount :=
  [{ name := Naming.dataVolume, mountPath := Naming.dataDirectory },
   { name := Naming.configMap, mountPath := Naming.configMountPath
     subPath := some Naming.configSubPath }]

/-- A list of texts as a value. -/
def textValues (words : List String) : Value := .list (words.map .text)

/-- The visitor of the server.  It has no readiness probe: the members find each other by host names
that are published for ready pods only. -/
def serverVisitor (s : Settings) : Visitor where
  commandAndArgs _ := .ok (.pair (textValues serverCommand) (textValues s.serverArgs))
  ports _ := .ok (some (.proper s.serverPorts))
  envs _ := .ok (some (.proper serverEnv))
  envFrom _ := .ok none
  resourceRequirements _ := s.serverResources.map fun r => some (.proper r)
  volumeMounts _ := .ok (some (.proper serverMounts))
  volumeDevices _ := .ok none
  livenessProbe _ := .ok none
  readinessProbe _ := .ok none
  lifecycle _ := .ok none
  securityContext _ := .ok none

end Settings

end ControlPlane
