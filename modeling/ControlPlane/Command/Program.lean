import ControlPlane.Build.Pipeline
import ControlPlane.Command.Arguments
import ControlPlane.Config
import ControlPlane.Manifest.Saving

/-!
# The program

The command line of the installer.  Its one command renders the manifest of the control plane: to
the output, or into a directory.

`plan` sorts out what a command line asks for without looking at anything else; `run` does it, for
any file system.  A shell that asks how a command line may go on is answered instead, whatever the
command line says; the answer is that of the library which reads command lines, and a parameter
here.
-/

namespace ControlPlane.Command

/-! ## the commands -/

/-- The command that renders the manifest. -/
def renderCommand : CommandInfo where
  path := "meshinstall render"
  arguments := "[OPTIONS]"
  description := ["Render the control plane StatefulSet manifest."]
  options :=
    [{ name := "config", letter := some 'c', value := some .path
       help := "YAML configuration file" },
     { name := "env-file", value := some .path
       help := ".env file used for $\x7bVAR\x7d interpolation" },
     { name := "namespace", value := some .text, help := "Target namespace" },
     { name := "replicas", value := some .integer, help := "Control plane replica count" },
     { name := "storage-class", value := some .text, help := "Storage class of the data volume" },
     { name := "capacity", value := some .text, help := "Data volume capacity, e.g. 10Gi" },
     { name := "out", letter := some 'o', value := some .text
       help := "Output directory; prints to stdout when omitted" }]

/-- The name of the command that renders the manifest. -/
def renderName : String := "render"

/-- The installer. -/
def installer : CommandInfo where
  path := "meshinstall"
  arguments := "[OPTIONS] COMMAND [ARGS]..."
  description :=
    ["meshinstall - service mesh control plane installer.",
     "Generates the StatefulSet manifest of the Easegress control plane."]
  options := [{ name := "verbose", letter := some 'v', help := "Enable debug logging" }]
  commands := [(renderName, "Render the control plane StatefulSet manifest.")]

/-! ## processes -/

/-- What a process brings along. -/
structure Process where
  /-- Its variables. -/
  environment : Variables
  /-- The order in which it goes through sets. -/
  order : SetOrder

/-- The variable in which a shell asks how a command line may go on. -/
def questionVariable : String := "_MESHINSTALL_COMPLETE"

/-- What a shell asks; the empty text asks nothing. -/
def question? (environment : Variables) : Option String :=
  (environment.value? questionVariable).filter (· ≠ "")

/-- The answer to a shell. -/
structure ShellAnswer where
  status : Nat
  output : String
  errorOutput : String := ""

/-! ## plans -/

/-- What a manifest is rendered from, and where to. -/
structure RenderOptions where
  /-- The configuration file; an empty path is none. -/
  config : String := ""
  /-- The file of variables; an empty path is none. -/
  envFile : String := ""
  /-- The directory for the manifest; with an empty path it is printed. -/
  out : String := ""
  namespaceName : Option String := none
  replicas : Option Int := none
  storageClass : Option String := none
  capacity : Option String := none
  deriving DecidableEq

/-- What a command line asks for. -/
inductive Plan where
  /-- A help text. -/
  | help (text : String)
  /-- Nothing that can be done; the text tells why. -/
  | refuse (text : String)
  /-- A file at a path that names nothing. -/
  | unnameable (path : String)
  /-- A manifest. -/
  | render (options : RenderOptions)
  deriving DecidableEq

/-- Whether no file can be named like this. -/
def isUnnameable (path : String) : Bool := path.toList.any (·.toNat == 0)

/-- The value of an integer option. -/
def integer? (value : String) : Option Int := (Integer.grouped .decimal value.toList).toOption

/-- The plan if the value of an option cannot be used: a number that is none, or a path that names
nothing. -/
def planUnusable? (a : Arguments) (name : String) : Option Plan :=
  let value := (a.value? name).getD ""
  match (renderCommand.options.find? fun o => o.name == name).bind (·.value) with
  | some .integer =>
    if (integer? value).isSome then none
    else some (.refuse ((UsageError.noInteger ("--" ++ name) value).report renderCommand))
  | some .path => if isUnnameable value then some (.unnameable value) else none
  | _ => none

/-- What a command line asks of the command that renders the manifest.  The first option whose value
cannot be used counts, and that before other arguments. -/
def planRender (words : List String) : Plan :=
  match renderCommand.arguments? true words with
  | .error e => .refuse (e.report renderCommand)
  | .ok a =>
    if a.has .helpOption then .help renderCommand.help
    else
      match a.options.findSome? fun g => planUnusable? a g.option with
      | some plan => plan
      | none =>
        if !a.others.isEmpty then
          .refuse ((UsageError.extraArguments a.others).report renderCommand)
        else
          .render
            { config := (a.value? "config").getD ""
              envFile := (a.value? "env-file").getD ""
              out := (a.value? "out").getD ""
              namespaceName := a.value? "namespace"
              replicas := (a.value? "replicas").bind integer?
              storageClass := a.value? "storage-class"
              capacity := a.value? "capacity" }

/-- The plan for a word that is no command.  It may still be an option of the installer, if it
stands behind two hyphens. -/
def planOther (name : String) (words : List String) : Plan :=
  match installer.arguments? false words with
  | .error e => .refuse (e.report installer)
  | .ok a =>
    if a.has .helpOption then .help installer.help
    else
      let similar := Text.closest name (installer.commands.map (·.1))
      .refuse ((UsageError.noSuchCommand name similar).report installer)

/-- What a command line asks for. -/
def plan (words : List String) : Plan :=
  if words.isEmpty then .refuse installer.help
  else
    match installer.arguments? false words with
    | .error e => .refuse (e.report installer)
    | .ok a =>
      if a.has .helpOption then .help installer.help
      else
        match a.others with
        | [] => .refuse (UsageError.missingCommand.report installer)
        | name :: rest =>
          if name = renderName then planRender rest else planOther name (name :: rest)

/-! ## outcomes -/

/-- Why a manifest was not rendered. -/
inductive RenderFailure where
  | config (failure : ConfigFailure)
  | build (failure : Failure)
  | file (error : FileError)

namespace RenderFailure

/-- Whether a failure is one of the library's own, which is reported in one line. -/
def isOwn : RenderFailure → Bool
  | .config f => f.isOwn
  | .build f => f.isManifestFailure
  | .file _ => false

/-- The wording of a failure. -/
def message : RenderFailure → String
  | .config f => f.message
  | .build f => f.message
  | .file e => e.message

end RenderFailure

/-- How the program ends. -/
inductive Outcome where
  /-- The text is the output. -/
  | shown (text : String)
  /-- The command line does not fit, and this is what is said about it. -/
  | refused (text : String)
  | failed (failure : RenderFailure)
  /-- A shell is answered. -/
  | answered (answer : ShellAnswer)

namespace Outcome

/-- The status that the program ends with. -/
def status : Outcome → Nat
  | .shown _ => 0
  | .refused _ => 2
  | .failed _ => 1
  | .answered a => a.status

/-- What the program prints. -/
def output : Outcome → String
  | .shown text => text
  | .answered a => a.output
  | .refused _ | .failed _ => ""

/-- What the program reports as an error. -/
def errorOutput : Outcome → String
  | .shown _ => ""
  | .refused text => text
  | .failed f => "Error: " ++ f.message ++ "\n"
  | .answered a => a.errorOutput

end Outcome

/-! ## running -/

/-- The settings on the command line. -/
def RenderOptions.overrides (o : RenderOptions) : List (Scalar × Value) :=
  let text (s : Option String) : Value := s.elim .null .text
  [(.text "namespace", text o.namespaceName),
   (.text "replicas", o.replicas.elim .null .int),
   (.text "storage_class_name", text o.storageClass),
   (.text "persist_volume_capacity", text o.capacity)]

section

variable {m : Type → Type} [Monad m]

/-- The settings for a manifest. -/
def RenderOptions.settings (o : RenderOptions) (files : FileAccess m) (process : Process) :
    m (Except ConfigFailure Settings) := do
  match ← Config.withEnvFile files process.environment process.environment o.envFile with
  | .error f => return .error f
  | .ok vars =>
    if o.config.isEmpty then return Config.ofEntries [] o.overrides
    else Config.parse files process.order vars o.config o.overrides

/-- A manifest printed, or saved in a directory. -/
def deliver (files : FileAccess m) (out : String) (manifest : Manifest) : m Outcome := do
  if out.isEmpty then return .shown manifest.toYaml
  match ← manifest.save files out with
  | .error e => return .failed (.file e)
  | .ok path => return .shown ("Manifest written to " ++ path ++ "\n")

/-- The manifest that is asked for. -/
def RenderOptions.run (o : RenderOptions) (files : FileAccess m) (process : Process) :
    m Outcome := do
  match ← o.settings files process with
  | .error f => return .failed (.config f)
  | .ok s =>
    match s.buildManifest with
    | .error f => return .failed (.build f)
    | .ok manifest => deliver files o.out manifest

/-- What a command line asks for, done. -/
def Plan.run (files : FileAccess m) (process : Process) : Plan → m Outcome
  | .help text => return .shown text
  | .refuse text => return .refused text
  | .unnameable path => return .failed (.config (.unreachable ⟨.unnameable, path⟩))
  | .render o => o.run files process

/-- The program, given the words of its command line, its process, and the answer to a shell for the
variables of any process. -/
def run (answer : Variables → ShellAnswer) (files : FileAccess m) (process : Process)
    (words : List String) : m Outcome :=
  match question? process.environment with
  | some _ => return .answered (answer process.environment)
  | none => (plan words).run files process

end

end ControlPlane.Command
