import ControlPlane.Proofs.Assembly
import ControlPlane.Proofs.Stages
import Mathlib.Data.List.DropRight

/-!
# The container of the server

The assembly calls eleven hooks; those of the server's visitor all succeed but one, and that one
fails with the first of its four texts that is no quantity (`serverResources_cases`).  So the outcome
of the assembly is a function of the sizing alone (`outcome_assemble_server`).
-/

namespace ControlPlane

/-! ## computations that may fail -/

theorem ok_bind {ε α β : Type} (a : α) (f : α → Except ε β) : (Except.ok a >>= f) = f a := rfl

@[simp] theorem map_ok {ε α β : Type} (f : α → β) (a : α) :
    (Except.ok a : Except ε α).map f = .ok (f a) := rfl

@[simp] theorem map_error {ε α β : Type} (f : α → β) (e : ε) :
    (Except.error e : Except ε α).map f = .error e := rfl

/-! ## first flaws -/

namespace Quantity

/-- The flaw of a text, if it is no quantity. -/
def flaw? (text : String) : Option Flaw :=
  match parse text with
  | .ok _ => none
  | .error flaw => some flaw

/-- The flaw of the first of several texts that is no quantity. -/
def firstFlaw? (texts : List String) : Option Flaw := texts.findSome? flaw?

theorem flaw?_eq_none_iff (t : String) : flaw? t = none ↔ ∃ q, parse t = .ok q := by
  unfold flaw?
  cases parse t <;> simp

theorem flaw?_eq_some_iff (t : String) (flaw : Flaw) :
    flaw? t = some flaw ↔ parse t = .error flaw := by
  unfold flaw?
  cases parse t <;> simp

@[simp] theorem firstFlaw?_cons_of_ok {t : String} {q : Quantity} (h : parse t = .ok q)
    (texts : List String) : firstFlaw? (t :: texts) = firstFlaw? texts := by
  simp [firstFlaw?, flaw?, h]

@[simp] theorem firstFlaw?_cons_of_error {t : String} {flaw : Flaw} (h : parse t = .error flaw)
    (texts : List String) : firstFlaw? (t :: texts) = some flaw := by
  simp [firstFlaw?, flaw?, h]

@[simp] theorem firstFlaw?_nil : firstFlaw? [] = none := rfl

theorem firstFlaw?_eq_none_iff (texts : List String) :
    firstFlaw? texts = none ↔ ∀ t ∈ texts, ∃ q, parse t = .ok q := by
  simp only [firstFlaw?, List.findSome?_eq_none_iff, flaw?_eq_none_iff]

end Quantity

theorem Failure.parseQuantity_of_ok {t : String} {q : Quantity} (h : Quantity.parse t = .ok q) :
    parseQuantity t = .ok q := by
  rw [parseQuantity, h]
  rfl

theorem Failure.parseQuantity_of_error {t : String} {flaw : Quantity.Flaw}
    (h : Quantity.parse t = .error flaw) : parseQuantity t = .error (ofQuantity flaw) := by
  rw [parseQuantity, h]
  rfl

namespace Settings

/-! ## sizing -/

/-- The quantities of the container in the order in which they are read. -/
def sizingTexts (s : Settings) : List String :=
  [s.resources.cpuRequest, s.resources.memoryRequest, s.resources.cpuLimit, s.resources.memoryLimit]

/-- The wire form of the container's sizing, as the settings give it. -/
def sizingWire (s : Settings) : Wire :=
  .object
    [("requests", .object
      [("cpu", .text s.resources.cpuRequest), ("memory", .text s.resources.memoryRequest)]),
     ("limits", .object
      [("cpu", .text s.resources.cpuLimit), ("memory", .text s.resources.memoryLimit)])]

/-- The sizing has the settings' own texts, or else the first of them that is no quantity is to
blame. -/
theorem serverResources_cases (s : Settings) :
    (∃ flaw, Quantity.firstFlaw? s.sizingTexts = some flaw ∧
      s.serverResources = .error (.ofQuantity flaw)) ∨
    (Quantity.firstFlaw? s.sizingTexts = none ∧
      ∃ r, s.serverResources = .ok r ∧ ResourceRequirements.shape.write r = s.sizingWire) := by
  rw [serverResources, sizingTexts]
  cases h₁ : Quantity.parse s.resources.cpuRequest with
  | error flaw =>
      left
      exact ⟨flaw, by simp [h₁], by rw [Failure.parseQuantity_of_error h₁]; rfl⟩
  | ok cpuRequest =>
  rw [Failure.parseQuantity_of_ok h₁, ok_bind]
  cases h₂ : Quantity.parse s.resources.memoryRequest with
  | error flaw =>
      left
      exact ⟨flaw, by simp [h₁, h₂], by rw [Failure.parseQuantity_of_error h₂]; rfl⟩
  | ok memoryRequest =>
  rw [Failure.parseQuantity_of_ok h₂, ok_bind]
  cases h₃ : Quantity.parse s.resources.cpuLimit with
  | error flaw =>
      left
      exact ⟨flaw, by simp [h₁, h₂, h₃], by rw [Failure.parseQuantity_of_error h₃]; rfl⟩
  | ok cpuLimit =>
  rw [Failure.parseQuantity_of_ok h₃, ok_bind]
  cases h₄ : Quantity.parse s.resources.memoryLimit with
  | error flaw =>
      left
      exact ⟨flaw, by simp [h₁, h₂, h₃, h₄], by rw [Failure.parseQuantity_of_error h₄]; rfl⟩
  | ok memoryLimit =>
      right
      rw [Failure.parseQuantity_of_ok h₄, ok_bind]
      refine ⟨by simp [h₁, h₂, h₃, h₄], _, rfl, ?_⟩
      simp [ResourceRequirements.shape, Shape.write, Fields.write, sizingWire, FieldKeys.one,
        Quantity.text_of_parse h₁, Quantity.text_of_parse h₂, Quantity.text_of_parse h₃,
        Quantity.text_of_parse h₄]

/-! ## the container -/

/-- A list of words is a command as it stands. -/
@[simp] theorem words?_textValues (words : List String) :
    (textValues words).words? = some (.proper words) := by
  have htexts : Value.texts? (words.map .text) = some words := by
    induction words with
    | nil => rfl
    | cons w ws ih => rw [List.map_cons, Value.texts?, ih]; rfl
  simp only [textValues, Value.words?, htexts]

/-- The container of the server with its sizing. -/
def serverContainer (s : Settings) (r : ResourceRequirements) : Container :=
  { s.baseContainer with
    command := some (.proper serverCommand)
    args := some (.proper s.serverArgs)
    ports := some (.proper s.serverPorts)
    env := some (.proper serverEnv)
    resources := some (.proper r)
    volumeMounts := some (.proper serverMounts) }

/-- What the hooks of the server's visitor give, with its sizing. -/
def serverResult (s : Settings) (r : ResourceRequirements) : (hook : Hook) → hook.Result
  | .commandAndArgs => (textValues serverCommand, textValues s.serverArgs)
  | .ports => some (.proper s.serverPorts)
  | .envs => some (.proper serverEnv)
  | .envFrom => none
  | .resourceRequirements => some (.proper r)
  | .volumeMounts => some (.proper serverMounts)
  | .volumeDevices => none
  | .livenessProbe => none
  | .readinessProbe => none
  | .lifecycle => none
  | .securityContext => none

theorem filled_serverResult (s : Settings) (r : ResourceRequirements) :
    s.baseContainer.filled (s.serverResult r) = s.serverContainer r := by
  simp [Container.filled, serverResult, serverContainer, baseContainer]

/-- Nothing but the sizing can keep the container of the server from being put together. -/
theorem outcome_assemble_server (s : Settings) :
    (assemble s.baseContainer s.serverVisitor).outcome =
      match s.serverResources with
      | .ok r => .ok (s.serverContainer r)
      | .error e => .error (.assembly Naming.container .resourceRequirements e) := by
  cases hr : s.serverResources with
  | error e =>
      have hfails : s.serverVisitor.visit .resourceRequirements s.baseContainer = .error e := by
        change s.serverResources.map (fun r => some (Contribution.proper r)) = .error e
        rw [hr, map_error]
      have hbefore : ∀ hook ∈ [Hook.commandAndArgs, .ports, .envs, .envFrom],
          ∃ result, s.serverVisitor.visit hook s.baseContainer = .ok result := by
        simp only [List.forall_mem_cons]
        exact ⟨⟨_, rfl⟩, ⟨_, rfl⟩, ⟨_, rfl⟩, ⟨_, rfl⟩, nofun⟩
      have hall : Hook.all = [Hook.commandAndArgs, .ports, .envs, .envFrom] ++
          .resourceRequirements :: [.volumeMounts, .volumeDevices, .livenessProbe, .readinessProbe,
            .lifecycle, .securityContext] := rfl
      rw [assemble_of_error hall hbefore hfails]
      rfl
  | ok r =>
      have hok : ∀ hook, s.serverVisitor.visit hook s.baseContainer = .ok (s.serverResult r hook) := by
        intro hook
        cases hook with
        | resourceRequirements =>
            change s.serverResources.map (fun r => some (Contribution.proper r)) = _
            rw [hr, map_ok]
            rfl
        | _ => rfl
      rw [assemble_of_ok hok, filled_serverResult]

end Settings

end ControlPlane
