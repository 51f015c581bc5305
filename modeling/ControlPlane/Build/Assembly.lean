import ControlPlane.Failure
import ControlPlane.Manifest.Workload

/-!
# Assembly of a container

A visitor decides what goes into a container; the assembly owns how the container is put together.
Every hook of the visitor sees the container with nothing but its name, image and pull policy.  The
hooks are called in a fixed order, each at most once, and the first failure ends the assembly.  Only
when all results are there are they assigned, field by field.

The container is one object from the first call to the last assignment (`Assembly`).  What a visitor
can observe is part of how an assembly went (`Traced`): the calls that were made, and the container
as it was left, also by an assembly that failed.
-/

namespace ControlPlane

/-- A hook for a field of the type: it sees the container and may contribute to the field. -/
abbrev HookFor (α : Type) := Container → Except Failure (Option (Contribution α))

/-- What a visitor contributes to a container.  A hook that contributes nothing gives `none`, and
the field is left out; an empty list is written as one. -/
structure Visitor where
  /-- The command and its arguments, as a pair of whatever kind. -/
  commandAndArgs : Container → Except Failure Value
  ports : HookFor (List ContainerPort)
  envs : HookFor (List EnvVar)
  envFrom : HookFor (List EnvFromSource)
  resourceRequirements : HookFor ResourceRequirements
  volumeMounts : HookFor (List VolumeMount)
  volumeDevices : HookFor (List VolumeDevice)
  livenessProbe : HookFor Probe
  readinessProbe : HookFor Probe
  lifecycle : HookFor Lifecycle
  securityContext : HookFor SecurityContext

/-- The visitor that contributes nothing, not even a command. -/
def Visitor.idle : Visitor where
  commandAndArgs _ := .ok .null
  ports _ := .ok none
  envs _ := .ok none
  envFrom _ := .ok none
  resourceRequirements _ := .ok none
  volumeMounts _ := .ok none
  volumeDevices _ := .ok none
  livenessProbe _ := .ok none
  readinessProbe _ := .ok none
  lifecycle _ := .ok none
  securityContext _ := .ok none

/-! ## command and arguments -/

/-- What a value consists of: the items of a list, the characters of a text or the keys of a
mapping. -/
def Value.elements (v : Value) : Except PairFault (List Value) :=
  match v with
  | .list items => .ok items
  | .pair a b => .ok [a, b]
  | .set members => .ok (members.map .scalar)
  | .map entries => .ok (entries.map fun e => .scalar e.1)
  | .scalar (.text s) => .ok (s.toList.map fun c => .text (String.singleton c))
  | .scalar (.bytes bs) => .ok (bs.map fun b => .int b.toNat)
  | .scalar s => .error (.noItems s)

/-- The two elements of a value. -/
def Value.pair? (v : Value) : Except PairFault (Value × Value) :=
  match v.elements with
  | .ok [a, b] => .ok (a, b)
  | .ok [] => .error (.tooFew 0)
  | .ok [_] => .error (.tooFew 1)
  | .ok _ => .error .tooMany
  | .error e => .error e

/-- The texts of a list of nothing but texts. -/
def Value.texts? : List Value → Option (List String)
  | [] => some []
  | .scalar (.text s) :: vs => (texts? vs).map (s :: ·)
  | _ => none

/-- What a visitor gave for a command or its arguments; null is nothing. -/
def Value.words? (v : Value) : Option (Contribution (List String)) :=
  match v with
  | .scalar .null => none
  | .list items =>
    match texts? items with
    | some words => some (.proper words)
    | none => some (.other v)
  | _ => some (.other v)

/-! ## results of hooks -/

/-- What a hook gives: two items for the command and its arguments, and for any other field what is
contributed to it. -/
def Hook.Result : Hook → Type
  | .commandAndArgs => Value × Value
  | .ports => Option (Contribution (List ContainerPort))
  | .envs => Option (Contribution (List EnvVar))
  | .envFrom => Option (Contribution (List EnvFromSource))
  | .resourceRequirements => Option (Contribution ResourceRequirements)
  | .volumeMounts => Option (Contribution (List VolumeMount))
  | .volumeDevices => Option (Contribution (List VolumeDevice))
  | .livenessProbe => Option (Contribution Probe)
  | .readinessProbe => Option (Contribution Probe)
  | .lifecycle => Option (Contribution Lifecycle)
  | .securityContext => Option (Contribution SecurityContext)

/-- The two items of what a visitor gives for the command and its arguments; anything else is a
failure. -/
def Visitor.commandPair (visitor : Visitor) (c : Container) : Except Failure (Value × Value) :=
  match visitor.commandAndArgs c with
  | .ok v => v.pair?.mapError .noPair
  | .error e => .error e

/-- A hook of a visitor by its name. -/
def Visitor.visit (visitor : Visitor) : (hook : Hook) → Container → Except Failure hook.Result
  | .commandAndArgs => visitor.commandPair
  | .ports => visitor.ports
  | .envs => visitor.envs
  | .envFrom => visitor.envFrom
  | .resourceRequirements => visitor.resourceRequirements
  | .volumeMounts => visitor.volumeMounts
  | .volumeDevices => visitor.volumeDevices
  | .livenessProbe => visitor.livenessProbe
  | .readinessProbe => visitor.readinessProbe
  | .lifecycle => visitor.lifecycle
  | .securityContext => visitor.securityContext

/-- The results of several hooks, one for each. -/
def Results (hooks : List Hook) : Type := (hook : Hook) → hook ∈ hooks → hook.Result

namespace Results

/-- The results of no hooks. -/
def nil : Results [] := fun _ h => nomatch h

/-- The result of one more hook. -/
def cons {hook : Hook} {hooks : List Hook} (result : hook.Result) (results : Results hooks) :
    Results (hook :: hooks) := fun other h =>
  if same : other = hook then same ▸ result else results other (List.mem_of_ne_of_mem same h)

/-- The result of a hook where there are all. -/
def get (results : Results Hook.all) (hook : Hook) : hook.Result := results hook hook.mem_all

end Results

/-! ## work on a container -/

/-- A call of a hook: which one, and the container that it saw. -/
structure Call where
  hook : Hook
  seen : Container

/-- How work on a container went: the calls that were made, the container afterwards, and the
outcome. -/
structure Traced (α : Type) where
  calls : List Call
  container : Container
  outcome : Except Failure α

/-- Work on a container. -/
structure Assembly (α : Type) where
  run : Container → Traced α

namespace Assembly

variable {α β : Type}

/-- Nothing is done. -/
def pure (a : α) : Assembly α := ⟨fun c => ⟨[], c, .ok a⟩⟩

/-- One after the other; nothing more is called or assigned after a failure. -/
def bind (x : Assembly α) (f : α → Assembly β) : Assembly β := ⟨fun c =>
  match x.run c with
  | ⟨calls, c, .ok a⟩ =>
    let rest := (f a).run c
    ⟨calls ++ rest.calls, rest.container, rest.outcome⟩
  | ⟨calls, c, .error e⟩ => ⟨calls, c, .error e⟩⟩

instance : Monad Assembly where
  pure := Assembly.pure
  bind := Assembly.bind

/-- The call of one hook of a visitor; a failure is one of the hook, in the container of the name. -/
def call (name : String) (visitor : Visitor) (hook : Hook) : Assembly hook.Result := ⟨fun c =>
  ⟨[⟨hook, c⟩], c, (visitor.visit hook c).mapError (.assembly name hook)⟩⟩

/-- An assignment to the container. -/
def assign (change : Container → Container) : Assembly Unit := ⟨fun c => ⟨[], change c, .ok ()⟩⟩

/-- The container as it is. -/
def current : Assembly Container := ⟨fun c => ⟨[], c, .ok c⟩⟩

/-- The calls of several hooks in order. -/
def collect (name : String) (visitor : Visitor) : (hooks : List Hook) → Assembly (Results hooks)
  | [] => return .nil
  | hook :: hooks => do
    let result ← call name visitor hook
    let results ← collect name visitor hooks
    return .cons result results

/-- The results of all hooks, each put into its own field. -/
def fill (results : Results Hook.all) : Assembly Unit := do
  let (command, args) := results.get .commandAndArgs
  assign fun c => { c with command := command.words? }
  assign fun c => { c with args := args.words? }
  assign fun c => { c with ports := results.get .ports }
  assign fun c => { c with env := results.get .envs }
  assign fun c => { c with envFrom := results.get .envFrom }
  assign fun c => { c with resources := results.get .resourceRequirements }
  assign fun c => { c with volumeMounts := results.get .volumeMounts }
  assign fun c => { c with volumeDevices := results.get .volumeDevices }
  assign fun c => { c with livenessProbe := results.get .livenessProbe }
  assign fun c => { c with readinessProbe := results.get .readinessProbe }
  assign fun c => { c with lifecycle := results.get .lifecycle }
  assign fun c => { c with securityContext := results.get .securityContext }

end Assembly

/-- A container with nothing but its name, image and pull policy, each read on its own. -/
def baseContainer? (name image pullPolicy : Value) : Reading Container :=
  let fields : Value :=
    .map [(.text "name", name), (.text "image", image), (.text "image_pull_policy", pullPolicy)]
  Container.shape.read fields

/-- The assembly of the container that a visitor's contributions make up, on top of a name, an image
and a pull policy. -/
def assemble (base : Container) (visitor : Visitor) : Traced Container :=
  work.run base
where
  /-- All hooks are called before anything is assigned. -/
  work : Assembly Container := do
    let results ← Assembly.collect base.name visitor Hook.all
    Assembly.fill results
    Assembly.current

end ControlPlane
