import ControlPlane.Shape.Read

/-!
# Failures of a build or a deployment

A failure tells what went wrong.  Some failures wrap another one, their cause, and say where it
arose: in which hook of a container, in which stage, in the deployment of which workload.

Failures of the library's own are told apart from those that reach it from elsewhere
(`Failure.isManifestFailure`): only the former are wrapped by the pipeline.
-/

namespace ControlPlane

/-! ## hooks and stages by name -/

/-- The hooks of a visitor, one for each group of a container's fields. -/
inductive Hook where
  | commandAndArgs
  | ports
  | envs
  | envFrom
  | resourceRequirements
  | volumeMounts
  | volumeDevices
  | livenessProbe
  | readinessProbe
  | lifecycle
  | securityContext
  deriving DecidableEq, Repr

namespace Hook

/-- The hooks in the order in which they are called. -/
def all : List Hook :=
  [.commandAndArgs, .ports, .envs, .envFrom, .resourceRequirements, .volumeMounts, .volumeDevices,
   .livenessProbe, .readinessProbe, .lifecycle, .securityContext]

theorem mem_all (hook : Hook) : hook ∈ all := by cases hook <;> decide

/-- The name of a hook. -/
def name : Hook → String
  | .commandAndArgs => "command_and_args"
  | .ports => "ports"
  | .envs => "envs"
  | .envFrom => "env_from"
  | .resourceRequirements => "resource_requirements"
  | .volumeMounts => "volume_mounts"
  | .volumeDevices => "volume_devices"
  | .livenessProbe => "liveness_probe"
  | .readinessProbe => "readiness_probe"
  | .lifecycle => "lifecycle"
  | .securityContext => "security_context"

end Hook

/-- The stages of a build. -/
inductive StageName where
  | allocate
  | baseIdentity
  | containerAttach
  | storageAttach
  deriving DecidableEq, Repr

namespace StageName

/-- The stages in the order in which they run. -/
def all : List StageName := [.allocate, .baseIdentity, .containerAttach, .storageAttach]

/-- The name of a stage. -/
def text : StageName → String
  | .allocate => "Allocate"
  | .baseIdentity => "BaseIdentity"
  | .containerAttach => "ContainerAttach"
  | .storageAttach => "StorageAttach"

end StageName

/-! ## failures -/

/-- Why a value is not a pair of a command and its arguments. -/
inductive PairFault where
  /-- A scalar has no items. -/
  | noItems (s : Scalar)
  /-- There are only so many items. -/
  | tooFew (n : Nat)
  /-- There are more than two items. -/
  | tooMany
  deriving DecidableEq, Repr

/-- The kind of a scalar, as messages name it. -/
def Scalar.kindName : Scalar → String
  | .null => "NoneType"
  | .bool _ => "bool"
  | .int _ => "int"
  | .float _ => "float"
  | .text _ => "str"
  | .bytes _ => "bytes"
  | .date _ => "datetime.date"
  | .timestamp _ => "datetime.datetime"

/-- The wording of a pair fault. -/
def PairFault.message : PairFault → String
  | .noItems s => "cannot unpack non-iterable " ++ s.kindName ++ " object"
  | .tooFew n => "not enough values to unpack (expected 2, got " ++ toString n ++ ")"
  | .tooMany => "too many values to unpack (expected 2)"

/-- The wording of an arithmetic fault. -/
def ArithmeticFault.message : ArithmeticFault → String
  | .overflow => "[<class 'decimal.Overflow'>]"
  | .invalidOperation => "[<class 'decimal.InvalidOperation'>]"

/-- The cluster's refusal of a request: a message and, often, a status. -/
structure ApiError where
  message : String
  status : Option Value

/-- What went wrong in a build or a deployment. -/
inductive Failure where
  /-- A text is no quantity. -/
  | quantity (text : String) (why : Quantity.Malformation)
  /-- The exponent of a quantity has too many digits. -/
  | longExponent (digits : Nat)
  /-- A quantity is beyond decimal arithmetic. -/
  | arithmetic (fault : ArithmeticFault)
  /-- A visitor gave no pair of a command and its arguments. -/
  | noPair (fault : PairFault)
  /-- A hook or a stage failed for reasons of its own. -/
  | raised (message : String)
  /-- The cluster refused a request. -/
  | api (error : ApiError)
  /-- The data of an object have problems. -/
  | invalid (problems : List Problem)
  /-- There is no manifest to work on. -/
  | absent
  /-- A manifest cannot be built. -/
  | manifest (message : String)
  /-- A hook of a container failed. -/
  | assembly (container : String) (hook : Hook) (cause : Failure)
  /-- A stage failed. -/
  | stage (name message : String)
  /-- A stage failed because of another failure. -/
  | stageCaused (name : String) (cause : Failure)
  /-- A workload could not be submitted. -/
  | deployment (workload : Option String) (cause : Failure)

namespace Failure

/-! ## wording -/

/-- The message about a failed hook. -/
def assemblyMessage (container hook : String) (cause : Option String) : String :=
  "container " ++ container ++ ": hook " ++ hook ++ " failed" ++
    (match cause with
      | some m => ": " ++ m
      | none => "")

/-- The message about a failed stage. -/
def stageMessage (name message : String) : String :=
  "stage " ++ name ++ " failed: " ++ message

/-- The message about a failed deployment. -/
def deploymentMessage (workload : String) (cause : Option String) : String :=
  "deploy statefulset " ++ workload ++ " failed" ++
    (match cause with
      | some m => ": " ++ m
      | none => "")

/-- The message of a failure.  Problems have wordings of their own; an absent manifest has none. -/
def message : Failure → String
  | .quantity text why => Quantity.unreadableMessage text why.reason
  | .longExponent digits => Quantity.longExponentMessage digits
  | .arithmetic fault => fault.message
  | .noPair fault => fault.message
  | .raised message => message
  | .api error => error.message
  | .invalid _ => ""
  | .absent => ""
  | .manifest message => message
  | .assembly container hook cause => assemblyMessage container hook.name (some cause.message)
  | .stage name message => stageMessage name message
  | .stageCaused name cause => stageMessage name cause.message
  | .deployment workload cause =>
    deploymentMessage (workload.getD "None") (some cause.message)

/-! ## classes -/

/-- Whether a failure is one of a stage. -/
def isStageFailure : Failure → Bool
  | .stage .. | .stageCaused .. => true
  | _ => false

/-- Whether a failure is one of the library's own. -/
def isManifestFailure : Failure → Bool
  | .quantity .. | .manifest _ | .assembly .. | .stage .. | .stageCaused .. | .deployment .. => true
  | _ => false

/-- The failures that a failure wraps, nearest first. -/
def causes : Failure → List Failure
  | .assembly _ _ cause => cause :: cause.causes
  | .stageCaused _ cause => cause :: cause.causes
  | .deployment _ cause => cause :: cause.causes
  | _ => []

/-- A refused quantity as a failure. -/
def ofQuantity : Quantity.Flaw → Failure
  | .unreadable text why => .quantity text why
  | .longExponent digits => .longExponent digits
  | .arithmetic fault => .arithmetic fault

/-- A rejected value as a failure. -/
def ofRejection : Rejection → Failure
  | .problems ps => .invalid ps
  | .fault fault => .arithmetic fault

/-- A quantity that a build needs. -/
def parseQuantity (text : String) : Except Failure Quantity :=
  (Quantity.parse text).mapError ofQuantity

end Failure

end ControlPlane
