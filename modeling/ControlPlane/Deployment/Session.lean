import ControlPlane.Build.Pipeline

/-!
# Deployment

A deployment is a conversation with the cluster: requests, and what is done with the answers.
`Session` is that conversation as data, so the same deployment can be run against any cluster, and
several of them side by side.

A workload is created; if the cluster says that it exists already, it is replaced.  Nothing is tried
twice.
-/

namespace ControlPlane

/-- A request to the cluster. -/
inductive Request where
  | create (namespaceName : String) (body : Wire)
  | replace (name : Option String) (namespaceName : String) (body : Wire)

/-- The cluster's answer to a request. -/
abbrev Answer := Except ApiError Unit

/-- A conversation with the cluster that ends with an outcome. -/
inductive Session (α : Type) where
  | done (outcome : α)
  | send (request : Request) (next : Answer → Session α)

namespace Session

variable {α : Type}

/-- The conversation with a cluster that answers each request, given those before it: all requests
in order, and the outcome. -/
def runAfter (cluster : List Request → Request → Answer) : List Request → Session α →
    List Request × α
  | sent, .done outcome => (sent, outcome)
  | sent, .send request next => runAfter cluster (sent ++ [request]) (next (cluster sent request))

/-- The whole conversation. -/
def run (cluster : List Request → Request → Answer) (s : Session α) : List Request × α :=
  runAfter cluster [] s

end Session

/-- The status of a conflict. -/
def conflictStatus : Int := 409

/-- Whether the cluster says that the workload exists: the status is the number of a conflict, as an
integer or a float. -/
def ApiError.isConflict (e : ApiError) : Bool :=
  match e.status with
  | some (.scalar (.int i)) => i == conflictStatus
  | some (.scalar (.float x)) => x.toInt? == some conflictStatus
  | _ => false

/-- The deployment of a finished manifest. -/
def deploy (m : Manifest) (namespaceName : String) : Session (Except Failure Unit) :=
  let body := m.toWire
  let refused (e : ApiError) : Session (Except Failure Unit) :=
    .done (.error (.deployment m.name (.api e)))
  .send (.create namespaceName body) fun
    | .ok () => .done (.ok ())
    | .error e =>
      if e.isConflict then
        .send (.replace m.name namespaceName body) fun
          | .ok () => .done (.ok ())
          | .error e => refused e
      else refused e

/-- The installation of the control plane: the manifest is built now, and the outcome is its
deployment. -/
def installStep (s : Settings) (p : Pipeline) : Except Failure (Session (Except Failure Unit)) :=
  (p.build s).map fun m => deploy m s.namespaceName

end ControlPlane
