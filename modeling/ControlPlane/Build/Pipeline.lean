import ControlPlane.Build.ServerVisitor

/-!
# The pipeline

A manifest is built by four stages, each of which fills in the fields that it owns.  A stage hands
over the manifest it was given, changed or not, or another object in its place (`Handover`).  Objects
are told apart by number (`Draft`), and the pipeline goes on only with the one that the first stage
made; a failure of a stage is one of the whole build.  Which stages ran, and on what, is part of how
a build went (`Pipeline.Trace`).

The stages after the first one work on the object itself, assignment by assignment (`Work`), so that
what is done to it before a failure is part of what they mean.
-/

namespace ControlPlane

/-- What a stage hands over. -/
inductive Handover where
  /-- The object that the stage was given, with these contents. -/
  | same (m : Manifest)
  /-- Another object, or nothing. -/
  | other (m : Option Manifest)

namespace Handover

/-- The manifest that is handed over. -/
def manifest? : Handover → Option Manifest
  | .same m => some m
  | .other m => m

/-- Whether it is the object that the stage was given. -/
def isSame : Handover → Bool
  | .same _ => true
  | .other _ => false

end Handover

/-- A stage works on the manifest so far, which the first stage does not have. -/
abbrev Stage := Option Manifest → Settings → Except Failure Handover

/-! ## work on an object -/

/-- Work on the object that a stage is given: how it goes, and the object afterwards.  What was done
to the object before a failure stays done. -/
def Work (α : Type) := Option Manifest → Except Failure α × Option Manifest

namespace Work

variable {α β : Type}

/-- Nothing is done. -/
def pure (a : α) : Work α := fun m? => (.ok a, m?)

/-- One after the other; nothing more is done after a failure. -/
def bind (x : Work α) (f : α → Work β) : Work β := fun m? =>
  match x m? with
  | (.ok a, m?) => f a m?
  | (.error e, m?) => (.error e, m?)

instance : Monad Work where
  pure := Work.pure
  bind := Work.bind

/-- A computation that leaves the object alone. -/
def compute (x : Except Failure α) : Work α := fun m? => (x, m?)

/-- An assignment to the object, if there is one. -/
def assign (change : Manifest → Manifest) : Work Unit := fun m? =>
  match m? with
  | some m => (.ok (), some (change m))
  | none => (.error .absent, none)

end Work

namespace Settings

/-- The container of the server before any hook is called. -/
def baseContainer (s : Settings) : Container :=
  { name := Naming.container, image := s.image, imagePullPolicy := some s.pullPolicy }

/-- The claim for the data of a replica. -/
def dataClaim (s : Settings) (capacity : Quantity) : PersistentVolumeClaim :=
  { metadata := { name := some Naming.dataVolume }
    spec := { accessModes := [.readWriteOnce]
              storageClassName := some s.storageClass
              resources := { requests := some [("storage", capacity)] } } }

end Settings

/-! ## the stages -/

/-- The volume of the server's configuration. -/
def configVolume : Volume :=
  { name := Naming.configMap, configMap := some { name := Naming.configMap } }

/-- The stages after the first one, which work on its manifest. -/
inductive LaterStage where
  | baseIdentity
  | containerAttach
  | storageAttach
  deriving DecidableEq, Repr

namespace LaterStage

/-- The later stages in the order in which they run. -/
def all : List LaterStage := [.baseIdentity, .containerAttach, .storageAttach]

/-- The identity of the workload: name, namespace, service, selector, replicas, and the labels and
the configuration volume of its pods. -/
def identityWork (s : Settings) : Work Unit := do
  .assign fun m => { m with metadata.name := some Naming.statefulSet }
  .assign fun m => { m with metadata.namespaceName := some s.namespaceName }
  .assign fun m => { m with spec.serviceName := some Naming.headlessService }
  .assign fun m => { m with spec.selector := some { matchLabels := Naming.labels } }
  .assign fun m => { m with spec.replicas := some s.replicas }
  .assign fun m => { m with spec.template.metadata.labels := some Naming.labels }
  .assign fun m => { m with spec.template.spec.volumes := some [configVolume] }

/-- The container, as a visitor fills it, in the place of all others. -/
def containerWork (visitor : Settings → Visitor) (s : Settings) : Work Unit := do
  let c ← .compute (assemble s.baseContainer (visitor s)).outcome
  .assign fun m => { m with spec.template.spec.containers := [c] }

/-- The claim for storage, behind the claims there are. -/
def storageWork (s : Settings) : Work Unit := do
  let capacity ← .compute (Failure.parseQuantity s.capacity)
  .assign fun m =>
    { m with spec.volumeClaimTemplates := m.spec.volumeClaimTemplates ++ [s.dataClaim capacity] }

/-- The work of a stage. -/
def work (visitor : Settings → Visitor) : LaterStage → Settings → Work Unit
  | .baseIdentity => identityWork
  | .containerAttach => containerWork visitor
  | .storageAttach => storageWork

end LaterStage

namespace Stage

/-- The manifest itself, whatever there was before. -/
def allocate : Stage := fun _ _ => .ok (.other (some {}))

/-- The stage that works on the object it is given and hands it over. -/
def ofWork (work : Settings → Work Unit) : Stage := fun m? s =>
  match work s m? with
  | (.ok (), some m) => .ok (.same m)
  | (.ok (), none) => .error .absent
  | (.error e, _) => .error e

end Stage

/-! ## drafts -/

/-- A manifest in the making: which object it is, and what it holds at present. -/
structure Draft where
  id : Nat
  manifest : Manifest

/-- What a stage hands over as a draft: the one it was given with what it holds now, or one that is
not the one it was given. -/
def Handover.draft? (given? : Option Draft) : Handover → Option Draft
  | .same m => given?.map fun d => { d with manifest := m }
  | .other m? => m?.map fun m => { id := given?.elim 0 (·.id + 1), manifest := m }

/-! ## the pipeline -/

/-- A stage for each name. -/
abbrev Pipeline := StageName → Stage

namespace Pipeline

/-- The pipeline of the control plane, with a visitor for the container. -/
def standard (visitor : Settings → Visitor) : Pipeline
  | .allocate => Stage.allocate
  | .baseIdentity => Stage.ofWork (LaterStage.work visitor .baseIdentity)
  | .containerAttach => Stage.ofWork (LaterStage.work visitor .containerAttach)
  | .storageAttach => Stage.ofWork (LaterStage.work visitor .storageAttach)

/-- The pipeline with another stage in the place of one. -/
def replaceStage (p : Pipeline) (name : StageName) (stage : Stage) : Pipeline :=
  fun n => if n = name then stage else p n

/-- A stage's failure as one of the build: that of a stage stays as it is, another one of the
library's own is wrapped, and one from elsewhere passes through. -/
def wrap (name : StageName) (e : Failure) : Failure :=
  if e.isStageFailure then e
  else if e.isManifestFailure then .stageCaused name.text e
  else e

/-- One stage of a build; from the second one on it has to hand over the object it was given. -/
def step (p : Pipeline) (s : Settings) (given? : Option Draft) (name : StageName) :
    Except Failure (Option Draft) :=
  match p name (given?.map (·.manifest)) s with
  | .error e => .error (wrap name e)
  | .ok h =>
    let result? := h.draft? given?
    if given?.isSome && result?.map (·.id) != given?.map (·.id) then
      .error (.stage name.text "stage returned a different manifest object")
    else .ok result?

/-- A stage that ran, and what it was given. -/
structure StageCall where
  stage : StageName
  given : Option Draft

/-- How a build went: the stages that ran, and what the last one handed over. -/
structure Trace where
  ran : List StageCall
  outcome : Except Failure (Option Draft)

/-- Stages one after the other. -/
def run (p : Pipeline) (s : Settings) : List StageName → Option Draft → Trace
  | [], given? => ⟨[], .ok given?⟩
  | name :: rest, given? =>
    match p.step s given? name with
    | .error e => ⟨[⟨name, given?⟩], .error e⟩
    | .ok next? =>
      let after := p.run s rest next?
      ⟨⟨name, given?⟩ :: after.ran, after.outcome⟩

/-- All stages in their order, from nothing. -/
def trace (p : Pipeline) (s : Settings) : Trace := p.run s StageName.all none

/-- The finished manifest. -/
def build (p : Pipeline) (s : Settings) : Except Failure Manifest :=
  match (p.trace s).outcome with
  | .error e => .error e
  | .ok (some d) => .ok d.manifest
  | .ok none => .error .absent

end Pipeline

/-- The manifest of the control plane. -/
def Settings.buildManifest (s : Settings) : Except Failure Manifest :=
  (Pipeline.standard Settings.serverVisitor).build s

end ControlPlane
