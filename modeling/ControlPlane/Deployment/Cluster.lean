import ControlPlane.Deployment.Session

/-!
# A cluster that keeps bodies

A cluster keeps a body for each key, which is a namespace and a name, and serves requests one at a
time: creation is refused where there is a body already, replacement where there is none, and
nothing is ever taken away (`Store.serve`).

Several deployments talk to it side by side.  `Traffic` is the whole of them at one moment; a turn
of one of them is its next request with the answer, and turns may come in any order.
-/

namespace ControlPlane

/-! ## exchanges -/

/-- A request with its answer. -/
structure Exchange where
  request : Request
  answer : Answer

namespace Exchange

/-- Whether the cluster did what it was asked to. -/
def isEffective (e : Exchange) : Bool := e.answer.isOk

/-- Whether the cluster says that the workload exists. -/
def isConflict (e : Exchange) : Bool :=
  match e.answer with
  | .ok () => false
  | .error e => e.isConflict

end Exchange

namespace Session

variable {α : Type}

/-- The exchanges of a conversation, given the requests before it. -/
def exchangesAfter (cluster : List Request → Request → Answer) : List Request → Session α →
    List Exchange
  | _, .done _ => []
  | sent, .send request next =>
    let answer := cluster sent request
    ⟨request, answer⟩ :: exchangesAfter cluster (sent ++ [request]) (next answer)

section

variable (cluster : List Request → Request → Answer) (sent : List Request)

@[simp] theorem runAfter_done (outcome : α) :
    runAfter cluster sent (.done outcome) = (sent, outcome) := rfl

@[simp] theorem exchangesAfter_done (outcome : α) :
    exchangesAfter cluster sent (.done outcome) = [] := rfl

end

end Session

/-- A conversation as it went. -/
structure Attempt (α : Type) where
  exchanges : List Exchange
  outcome : α

/-- The same conversation again and again, each time with another cluster, which knows all requests
before. -/
def Session.attempts {α : Type} (s : Session α) : (sent : List Request) →
    (clusters : List (List Request → Request → Answer)) → List (Attempt α)
  | _, [] => []
  | sent, cluster :: clusters =>
    let (sent', outcome) := s.runAfter cluster sent
    ⟨s.exchangesAfter cluster sent, outcome⟩ :: s.attempts sent' clusters

/-! ## bodies and their keys -/

/-- A text in the metadata of a body. -/
def Wire.metadataText? (body : Wire) (key : String) : Option String :=
  match body with
  | .object entries =>
    match Entries.get? (· == ·) "metadata" entries with
    | some (.object fields) =>
      match Entries.get? (· == ·) key fields with
      | some (.text s) => some s
      | _ => none
    | _ => none
  | _ => none

/-- Where a cluster keeps a body. -/
structure Key where
  namespaceName : String
  name : String
  deriving DecidableEq, Repr

namespace Request

/-- The body that a request carries. -/
def body : Request → Wire
  | .create _ body => body
  | .replace _ _ body => body

/-- The key that a request is about: a new body tells its name itself. -/
def key? : Request → Option Key
  | .create namespaceName body => (body.metadataText? "name").map (⟨namespaceName, ·⟩)
  | .replace name namespaceName _ => name.map (⟨namespaceName, ·⟩)

end Request

/-! ## the store -/

/-- The bodies that a cluster keeps. -/
abbrev Store := Key → Option Wire

namespace Store

/-- The store with a body under a key. -/
def put (store : Store) (key : Key) (body : Wire) : Store :=
  fun k => if k = key then some body else store k

@[simp] theorem put_self (store : Store) (key : Key) (body : Wire) :
    store.put key body key = some body := by
  simp [put]

theorem put_of_ne (store : Store) {key k : Key} (body : Wire) (h : k ≠ key) :
    store.put key body k = store k := by
  simp [put, h]

/-- Where there is a body, there is one behind any change. -/
theorem isSome_put {store : Store} {k : Key} (h : (store k).isSome) (key : Key) (body : Wire) :
    (store.put key body k).isSome := by
  by_cases hk : k = key
  · simp [put, hk]
  · rwa [put_of_ne store body hk]

/-- The answer to a request and the store behind it, given the wording of refusals.  A request
without a name is refused as such. -/
def serve (wording : Request → String) (store : Store) (request : Request) : Answer × Store :=
  let refused (status : Int) : Answer × Store :=
    (.error { message := wording request, status := some (.int status) }, store)
  match request.key? with
  | none => refused 422
  | some key =>
    match request, store key with
    | .create _ _, some _ => refused conflictStatus
    | .create _ body, none => (.ok (), store.put key body)
    | .replace _ _ body, some _ => (.ok (), store.put key body)
    | .replace _ _ _, none => refused 404

end Store

/-! ## deployments side by side -/

/-- A manifest and the namespace that it is deployed to. -/
structure Deployment where
  manifest : Manifest
  namespaceName : String

namespace Deployment

/-- Where a deployment puts its body. -/
def key? (d : Deployment) : Option Key := d.manifest.name.map (⟨d.namespaceName, ·⟩)

/-- What a deployment puts there. -/
def body (d : Deployment) : Wire := d.manifest.toWire

/-- The conversation of a deployment with a cluster. -/
def session (d : Deployment) : Session (Except Failure Unit) := deploy d.manifest d.namespaceName

/-- How a deployment ends when a request is refused for good. -/
def refusal (d : Deployment) (e : ApiError) : Session (Except Failure Unit) :=
  .done (.error (.deployment d.manifest.name (.api e)))

/-- What is left of a deployment once its body is known to have a predecessor. -/
def replacement (d : Deployment) : Session (Except Failure Unit) :=
  .send (.replace d.manifest.name d.namespaceName d.body) fun
    | .ok () => .done (.ok ())
    | .error e => d.refusal e

/-- A deployment is a creation, with a replacement behind a conflict. -/
theorem session_eq (d : Deployment) :
    d.session = .send (.create d.namespaceName d.body) fun
      | .ok () => .done (.ok ())
      | .error e => if e.isConflict then d.replacement else d.refusal e := rfl

end Deployment

/-- Conversations with one cluster at one moment. -/
structure Traffic (ι : Type) where
  store : Store
  /-- What is left of each conversation. -/
  sessions : ι → Session (Except Failure Unit)
  /-- The exchanges so far in their order, each with the conversation that it belongs to. -/
  exchanges : List (ι × Exchange) := []

namespace Traffic

variable {ι : Type}

/-- Deployments that have not begun. -/
def start (store : Store) (deployments : ι → Deployment) : Traffic ι where
  store := store
  sessions i := (deployments i).session

/-- Whether a conversation is at its end. -/
def IsDone (t : Traffic ι) (i : ι) : Prop := ∃ outcome, t.sessions i = .done outcome

variable [DecidableEq ι]

/-- The traffic behind an exchange of one conversation, which changes the store and leaves a rest of
the conversation. -/
def after (t : Traffic ι) (i : ι) (e : Exchange) (store : Store)
    (rest : Session (Except Failure Unit)) : Traffic ι where
  store := store
  sessions j := if j = i then rest else t.sessions j
  exchanges := t.exchanges ++ [(i, e)]

/-- A turn of one conversation; one that is at its end has nothing more to say. -/
def turn (wording : Request → String) (t : Traffic ι) (i : ι) : Traffic ι :=
  match t.sessions i with
  | .done _ => t
  | .send request next =>
    let (answer, store) := t.store.serve wording request
    t.after i ⟨request, answer⟩ store (next answer)

/-- Turns one after the other. -/
def run (wording : Request → String) (t : Traffic ι) (turns : List ι) : Traffic ι :=
  turns.foldl (turn wording) t

/-- How many effective exchanges a conversation has had. -/
def writeCount (t : Traffic ι) (i : ι) : Nat :=
  t.exchanges.countP fun e => decide (e.1 = i) && e.2.isEffective

/-- Whose exchange was the last effective one about a key. -/
def lastWriter? (t : Traffic ι) (key : Key) : Option ι :=
  (t.exchanges.filter fun e => e.2.isEffective && e.2.request.key? == some key).getLast?.map (·.1)

end Traffic

end ControlPlane
