import ControlPlane.Shape.Basic

/-!
# Containers

A container of a pod and its parts: ports, environment, resources, mounts, probes, life cycle and
security context.  Each type stands beside its shape.
-/

namespace ControlPlane

/-- When an image is pulled. -/
inductive PullPolicy where
  | always
  | ifNotPresent
  | never
  deriving DecidableEq, Repr

namespace PullPolicy

/-- The texts of the pull policies. -/
def choice : Choice PullPolicy where
  values := [.always, .ifNotPresent, .never]
  text
    | .always => "Always"
    | .ifNotPresent => "IfNotPresent"
    | .never => "Never"
  find a := by cases a <;> decide

/-- The text of a pull policy. -/
def text : PullPolicy → String := choice.text

/-- The shape of a pull policy. -/
def shape : Shape PullPolicy := .choice choice

end PullPolicy

/-! ## ports and environment -/

/-- A named port that a container exposes. -/
structure ContainerPort where
  name : String
  containerPort : Int
  protocol : Option String := none

/-- The shape of a container port. -/
def ContainerPort.shape : Shape ContainerPort :=
  .record (.kube "ContainerPort")
    (.required (.one "name") (.text 0) <|
     .required (.either "containerPort" "container_port") (.integer .none) <|
     .optional (.one "protocol") (.text 0) <|
     .nil)
    { pack := fun (name, containerPort, protocol, ()) => ⟨name, containerPort, protocol⟩
      unpack := fun p => (p.name, p.containerPort, p.protocol, ()) }

/-- A field of the pod itself. -/
structure ObjectFieldSelector where
  fieldPath : String

/-- The shape of a field selector. -/
def ObjectFieldSelector.shape : Shape ObjectFieldSelector :=
  .record (.kube "ObjectFieldSelector")
    (.required (.either "fieldPath" "field_path") (.text 0) <|
     .nil)
    { pack := fun (fieldPath, ()) => ⟨fieldPath⟩
      unpack := fun s => (s.fieldPath, ()) }

/-- Where the value of an environment variable comes from. -/
structure EnvVarSource where
  fieldRef : Option ObjectFieldSelector := none

/-- The shape of a variable's source. -/
def EnvVarSource.shape : Shape EnvVarSource :=
  .record (.kube "EnvVarSource")
    (.optional (.either "fieldRef" "field_ref") ObjectFieldSelector.shape <|
     .nil)
    { pack := fun (fieldRef, ()) => ⟨fieldRef⟩
      unpack := fun s => (s.fieldRef, ()) }

/-- An environment variable, either literal or taken from the pod. -/
structure EnvVar where
  name : String
  value : Option String := none
  valueFrom : Option EnvVarSource := none

/-- The shape of an environment variable. -/
def EnvVar.shape : Shape EnvVar :=
  .record (.kube "EnvVar")
    (.required (.one "name") (.text 0) <|
     .optional (.one "value") (.text 0) <|
     .optional (.either "valueFrom" "value_from") EnvVarSource.shape <|
     .nil)
    { pack := fun (name, value, valueFrom, ()) => ⟨name, value, valueFrom⟩
      unpack := fun e => (e.name, e.value, e.valueFrom, ()) }

/-- A config map that environment variables are taken from. -/
structure ConfigMapEnvSource where
  name : String

/-- The shape of a config map as a source of variables. -/
def ConfigMapEnvSource.shape : Shape ConfigMapEnvSource :=
  .record (.kube "ConfigMapEnvSource")
    (.required (.one "name") (.text 0) <|
     .nil)
    { pack := fun (name, ()) => ⟨name⟩
      unpack := fun s => (s.name, ()) }

/-- Variables taken from elsewhere, their names lengthened at the front. -/
structure EnvFromSource where
  namePrefix : Option String := none
  configMapRef : Option ConfigMapEnvSource := none

/-- The shape of a source of variables. -/
def EnvFromSource.shape : Shape EnvFromSource :=
  .record (.kube "EnvFromSource")
    (.optional (.one "prefix") (.text 0) <|
     .optional (.either "configMapRef" "config_map_ref") ConfigMapEnvSource.shape <|
     .nil)
    { pack := fun (namePrefix, configMapRef, ()) => ⟨namePrefix, configMapRef⟩
      unpack := fun s => (s.namePrefix, s.configMapRef, ()) }

/-! ## resources and storage -/

/-- Requests and limits by the name of the resource. -/
structure ResourceRequirements where
  requests : Option (Entries String Quantity) := none
  limits : Option (Entries String Quantity) := none

/-- The shape of resource requirements. -/
def ResourceRequirements.shape : Shape ResourceRequirements :=
  .record (.kube "ResourceRequirements")
    (.optional (.one "requests") (.map .quantity) <|
     .optional (.one "limits") (.map .quantity) <|
     .nil)
    { pack := fun (requests, limits, ()) => ⟨requests, limits⟩
      unpack := fun r => (r.requests, r.limits, ()) }

/-- A volume of the pod mounted into the container. -/
structure VolumeMount where
  name : String
  mountPath : String
  subPath : Option String := none
  readOnly : Option Bool := none

/-- The shape of a volume mount. -/
def VolumeMount.shape : Shape VolumeMount :=
  .record (.kube "VolumeMount")
    (.required (.one "name") (.text 0) <|
     .required (.either "mountPath" "mount_path") (.text 0) <|
     .optional (.either "subPath" "sub_path") (.text 0) <|
     .optional (.either "readOnly" "read_only") .boolean <|
     .nil)
    { pack := fun (name, mountPath, subPath, readOnly, ()) => ⟨name, mountPath, subPath, readOnly⟩
      unpack := fun m => (m.name, m.mountPath, m.subPath, m.readOnly, ()) }

/-- A raw block device of the pod. -/
structure VolumeDevice where
  name : String
  devicePath : String

/-- The shape of a volume device. -/
def VolumeDevice.shape : Shape VolumeDevice :=
  .record (.kube "VolumeDevice")
    (.required (.one "name") (.text 0) <|
     .required (.either "devicePath" "device_path") (.text 0) <|
     .nil)
    { pack := fun (name, devicePath, ()) => ⟨name, devicePath⟩
      unpack := fun d => (d.name, d.devicePath, ()) }

/-! ## probes and life cycle -/

/-- A command run in the container. -/
structure ExecAction where
  command : List String := []

/-- The shape of a command run in the container. -/
def ExecAction.shape : Shape ExecAction :=
  .record (.kube "ExecAction")
    (.defaulted (.one "command") (.list (.text 0)) [] <|
     .nil)
    { pack := fun (command, ()) => ⟨command⟩
      unpack := fun a => (a.command, ()) }

/-- A request over HTTP. -/
structure HttpGetAction where
  path : Option String := none
  port : Port
  host : Option String := none
  scheme : Option String := none

/-- The shape of a request over HTTP. -/
def HttpGetAction.shape : Shape HttpGetAction :=
  .record (.kube "HTTPGetAction")
    (.optional (.one "path") (.text 0) <|
     .required (.one "port") .port <|
     .optional (.one "host") (.text 0) <|
     .optional (.one "scheme") (.text 0) <|
     .nil)
    { pack := fun (path, port, host, scheme, ()) => ⟨path, port, host, scheme⟩
      unpack := fun a => (a.path, a.port, a.host, a.scheme, ()) }

/-- An attempt to open a connection. -/
structure TcpSocketAction where
  port : Port
  host : Option String := none

/-- The shape of an attempt to open a connection. -/
def TcpSocketAction.shape : Shape TcpSocketAction :=
  .record (.kube "TCPSocketAction")
    (.required (.one "port") .port <|
     .optional (.one "host") (.text 0) <|
     .nil)
    { pack := fun (port, host, ()) => ⟨port, host⟩
      unpack := fun a => (a.port, a.host, ()) }

/-- A check that is repeated while the container runs. -/
structure Probe where
  exec : Option ExecAction := none
  httpGet : Option HttpGetAction := none
  tcpSocket : Option TcpSocketAction := none
  initialDelaySeconds : Option Int := none
  periodSeconds : Option Int := none
  timeoutSeconds : Option Int := none
  failureThreshold : Option Int := none

/-- The shape of a probe. -/
def Probe.shape : Shape Probe :=
  .record (.kube "Probe")
    (.optional (.either "exec" "exec_action") ExecAction.shape <|
     .optional (.either "httpGet" "http_get") HttpGetAction.shape <|
     .optional (.either "tcpSocket" "tcp_socket") TcpSocketAction.shape <|
     .optional (.either "initialDelaySeconds" "initial_delay_seconds") (.integer .none) <|
     .optional (.either "periodSeconds" "period_seconds") (.integer .none) <|
     .optional (.either "timeoutSeconds" "timeout_seconds") (.integer .none) <|
     .optional (.either "failureThreshold" "failure_threshold") (.integer .none) <|
     .nil)
    { pack := fun (exec, httpGet, tcpSocket, initialDelaySeconds, periodSeconds, timeoutSeconds,
          failureThreshold, ()) =>
        ⟨exec, httpGet, tcpSocket, initialDelaySeconds, periodSeconds, timeoutSeconds,
          failureThreshold⟩
      unpack := fun p => (p.exec, p.httpGet, p.tcpSocket, p.initialDelaySeconds, p.periodSeconds,
        p.timeoutSeconds, p.failureThreshold, ()) }

/-- What is done at a moment of a container's life. -/
structure LifecycleHandler where
  exec : Option ExecAction := none
  httpGet : Option HttpGetAction := none

/-- The shape of a life cycle handler. -/
def LifecycleHandler.shape : Shape LifecycleHandler :=
  .record (.kube "LifecycleHandler")
    (.optional (.either "exec" "exec_action") ExecAction.shape <|
     .optional (.either "httpGet" "http_get") HttpGetAction.shape <|
     .nil)
    { pack := fun (exec, httpGet, ()) => ⟨exec, httpGet⟩
      unpack := fun h => (h.exec, h.httpGet, ()) }

/-- What is done after the start and before the stop of a container. -/
structure Lifecycle where
  postStart : Option LifecycleHandler := none
  preStop : Option LifecycleHandler := none

/-- The shape of a life cycle. -/
def Lifecycle.shape : Shape Lifecycle :=
  .record (.kube "Lifecycle")
    (.optional (.either "postStart" "post_start") LifecycleHandler.shape <|
     .optional (.either "preStop" "pre_stop") LifecycleHandler.shape <|
     .nil)
    { pack := fun (postStart, preStop, ()) => ⟨postStart, preStop⟩
      unpack := fun l => (l.postStart, l.preStop, ()) }

/-- The rights that a container runs with. -/
structure SecurityContext where
  runAsUser : Option Int := none
  runAsGroup : Option Int := none
  runAsNonRoot : Option Bool := none
  privileged : Option Bool := none
  readOnlyRootFilesystem : Option Bool := none
  allowPrivilegeEscalation : Option Bool := none

/-- The shape of a security context. -/
def SecurityContext.shape : Shape SecurityContext :=
  .record (.kube "SecurityContext")
    (.optional (.either "runAsUser" "run_as_user") (.integer .none) <|
     .optional (.either "runAsGroup" "run_as_group") (.integer .none) <|
     .optional (.either "runAsNonRoot" "run_as_non_root") .boolean <|
     .optional (.one "privileged") .boolean <|
     .optional (.either "readOnlyRootFilesystem" "read_only_root_filesystem") .boolean <|
     .optional (.either "allowPrivilegeEscalation" "allow_privilege_escalation") .boolean <|
     .nil)
    { pack := fun (runAsUser, runAsGroup, runAsNonRoot, privileged, readOnlyRootFilesystem,
          allowPrivilegeEscalation, ()) =>
        ⟨runAsUser, runAsGroup, runAsNonRoot, privileged, readOnlyRootFilesystem,
          allowPrivilegeEscalation⟩
      unpack := fun s => (s.runAsUser, s.runAsGroup, s.runAsNonRoot, s.privileged,
        s.readOnlyRootFilesystem, s.allowPrivilegeEscalation, ()) }

/-! ## the container -/

/-- A container.  Every field after the pull policy belongs to one hook of a visitor; an absent
field is one to which nothing was contributed, which is not the same as an empty list. -/
structure Container where
  name : String
  image : String
  imagePullPolicy : Option PullPolicy := none
  command : Option (Contribution (List String)) := none
  args : Option (Contribution (List String)) := none
  ports : Option (Contribution (List ContainerPort)) := none
  env : Option (Contribution (List EnvVar)) := none
  envFrom : Option (Contribution (List EnvFromSource)) := none
  resources : Option (Contribution ResourceRequirements) := none
  volumeMounts : Option (Contribution (List VolumeMount)) := none
  volumeDevices : Option (Contribution (List VolumeDevice)) := none
  livenessProbe : Option (Contribution Probe) := none
  readinessProbe : Option (Contribution Probe) := none
  lifecycle : Option (Contribution Lifecycle) := none
  securityContext : Option (Contribution SecurityContext) := none

/-- The shape of a container. -/
def Container.shape : Shape Container :=
  .record (.kube "ContainerDescriptor")
    (.required (.one "name") (.text 0) <|
     .required (.one "image") (.text 0) <|
     .optional (.either "imagePullPolicy" "image_pull_policy") PullPolicy.shape <|
     .optional (.one "command") (.contribution (.list (.text 0))) <|
     .optional (.one "args") (.contribution (.list (.text 0))) <|
     .optional (.one "ports") (.contribution (.list ContainerPort.shape)) <|
     .optional (.one "env") (.contribution (.list EnvVar.shape)) <|
     .optional (.either "envFrom" "env_from") (.contribution (.list EnvFromSource.shape)) <|
     .optional (.one "resources") (.contribution ResourceRequirements.shape) <|
     .optional (.either "volumeMounts" "volume_mounts") (.contribution (.list VolumeMount.shape)) <|
     .optional (.either "volumeDevices" "volume_devices")
       (.contribution (.list VolumeDevice.shape)) <|
     .optional (.either "livenessProbe" "liveness_probe") (.contribution Probe.shape) <|
     .optional (.either "readinessProbe" "readiness_probe") (.contribution Probe.shape) <|
     .optional (.one "lifecycle") (.contribution Lifecycle.shape) <|
     .optional (.either "securityContext" "security_context")
       (.contribution SecurityContext.shape) <|
     .nil)
    { pack := fun (name, image, imagePullPolicy, command, args, ports, env, envFrom, resources,
          volumeMounts, volumeDevices, livenessProbe, readinessProbe, lifecycle, securityContext,
          ()) =>
        ⟨name, image, imagePullPolicy, command, args, ports, env, envFrom, resources,
          volumeMounts, volumeDevices, livenessProbe, readinessProbe, lifecycle, securityContext⟩
      unpack := fun c => (c.name, c.image, c.imagePullPolicy, c.command, c.args, c.ports, c.env,
        c.envFrom, c.resources, c.volumeMounts, c.volumeDevices, c.livenessProbe,
        c.readinessProbe, c.lifecycle, c.securityContext, ()) }

end ControlPlane
