import ControlPlane.EnvFile
import ControlPlane.Files.Access
import ControlPlane.Interpolation
import ControlPlane.Settings
import ControlPlane.Value.SetOrder
import ControlPlane.Yaml.Content

/-!
# Configuration

Settings from a configuration: the variables are put into the text, the text is read as a mapping,
the overrides are laid over it, and the result is read as settings.  What is written decides all of
that but the order in which the process goes through the sets of the mapping, which `ofText` and
those that build on it take as a `SetOrder`.

`ConfigFailure` has a constructor for each thing that can go wrong on the way.  Those that arise
from a fault of the configuration itself are the library's own; a few others reach the caller as
they are (`ConfigFailure.isOwn`).
-/

namespace ControlPlane

/-! ## failures -/

/-- Why there are no settings. -/
inductive ConfigFailure where
  /-- The file of variables is not there. -/
  | noEnvFile (path : String)
  /-- The configuration file cannot be read. -/
  | unreadable (error : FileError)
  /-- A variable has no value. -/
  | unset (why : Unset)
  /-- The text is not YAML. -/
  | notYaml
  /-- The text stands for something other than a mapping. -/
  | notMapping
  /-- The values do not fit. -/
  | invalid (problems : List Problem)
  /-- A file holds something other than text. -/
  | undecodable
  /-- A value does not have the type that its tag tells. -/
  | untyped (fault : Yaml.Fault)
  /-- A file cannot be reached at all. -/
  | unreachable (error : FileError)
  /-- A value is beyond decimal arithmetic. -/
  | arithmetic (fault : ArithmeticFault)
  deriving DecidableEq, Repr

namespace ConfigFailure

/-- Whether a failure is one of the library's own. -/
def isOwn : ConfigFailure → Bool
  | .noEnvFile _ | .unreadable _ | .unset _ | .notYaml | .notMapping | .invalid _ => true
  | .undecodable | .untyped _ | .unreachable _ | .arithmetic _ => false

/-- The first line about values that do not fit. -/
def invalidMessage (count : Nat) : String :=
  "invalid configuration: " ++ toString count ++
    (if count = 1 then " validation error" else " validation errors") ++ " for StageContext"

/-- The wording of a failure of the library's own.  What is wrong with a text that is not YAML is
not told. -/
def message : ConfigFailure → String
  | .noEnvFile path => "env file " ++ path ++ " not found"
  | .unreadable e => "cannot read config " ++ e.path ++ ": " ++ e.message
  | .unset why => "interpolation failed: " ++ why.message
  | .notYaml => "invalid YAML"
  | .notMapping => "configuration must be a mapping"
  | .invalid ps => invalidMessage ps.length
  | .undecodable | .untyped _ | .unreachable _ | .arithmetic _ => ""

/-- A fault of a YAML text: one of a value's type reaches the caller as it is. -/
def ofYaml : Yaml.Fault → ConfigFailure
  | .malformed => .notYaml
  | f => .untyped f

/-- Values that are rejected. -/
def ofRejection : Rejection → ConfigFailure
  | .problems ps => .invalid ps
  | .fault f => .arithmetic f

/-- A refusal to open the configuration file: a path that names nothing reaches the caller. -/
def ofFile (e : FileError) : ConfigFailure :=
  if e.fault = .unnameable then .unreachable e else .unreadable e

end ConfigFailure

namespace Config

/-! ## from values -/

/-- The values of a configuration with others laid over them; absent ones hide nothing. -/
def override (overrides entries : List (Scalar × Value)) : List (Scalar × Value) :=
  Entries.putAll Scalar.sameKey (overrides.filter fun e => !e.2.isNull) entries

/-- The settings in a mapping. -/
def ofEntries (entries overrides : List (Scalar × Value)) : Except ConfigFailure Settings :=
  (Settings.read (.map (override overrides entries))).mapError .ofRejection

/-! ## from text -/

/-- The mapping that a text stands for; an empty text stands for an empty one. -/
def entriesOf (text : String) : Except ConfigFailure (List (Scalar × Value)) :=
  match Yaml.load text with
  | .error f => .error (.ofYaml f)
  | .ok (.map entries) => .ok entries
  | .ok (.scalar .null) => .ok []
  | .ok _ => .error .notMapping

/-- The mapping that is written in a text, the variables put in. -/
def written (vars : Variables) (text : String) : Except ConfigFailure (List (Scalar × Value)) :=
  match interpolate text vars with
  | .error why => .error (.unset why)
  | .ok text => entriesOf text

/-- The settings in a mapping that is written, unless there is none. -/
def ofWritten (order : SetOrder) (written : Except ConfigFailure (List (Scalar × Value)))
    (overrides : List (Scalar × Value)) : Except ConfigFailure Settings :=
  match written with
  | .error e => .error e
  | .ok entries => ofEntries (order.entries entries) overrides

/-- The settings in a text. -/
def ofText (order : SetOrder) (vars : Variables) (text : String)
    (overrides : List (Scalar × Value)) : Except ConfigFailure Settings :=
  ofWritten order (written vars text) overrides

/-! ## from files -/

/-- The text of a file, its line ends made uniform. -/
def textOf (content : List UInt8) : Except ConfigFailure (List Char) :=
  match Text.decodeUtf8? content with
  | some text => .ok (Text.uniformLines text)
  | none => .error .undecodable

/-- The mapping that is written in a file, given the outcome of reading it. -/
def writtenIn (vars : Variables) (file : Except FileError (List UInt8)) :
    Except ConfigFailure (List (Scalar × Value)) :=
  match file with
  | .error e => .error (.ofFile e)
  | .ok content =>
    match textOf content with
    | .error e => .error e
    | .ok text => written vars (String.ofList text)

/-- The settings in a file, given the outcome of reading it. -/
def ofFile (order : SetOrder) (vars : Variables) (file : Except FileError (List UInt8))
    (overrides : List (Scalar × Value)) : Except ConfigFailure Settings :=
  ofWritten order (writtenIn vars file) overrides

/-- The variables with those of a file laid over them, given the contents of the file. -/
def addEnvFile (process vars : Variables) (content : List UInt8) : Except ConfigFailure Variables :=
  (textOf content).map fun text =>
    Entries.putAll (· == ·) (EnvFile.read process text) vars

section

variable {m : Type → Type} [Monad m]

/-- The variables with those of a file laid over them.  A directory has none; an empty path stands
for no file. -/
def withEnvFile (files : FileAccess m) (process vars : Variables) (path : String) :
    m (Except ConfigFailure Variables) := do
  if path.isEmpty then return .ok vars
  match ← files.kind? path with
  | none => return .error (.noEnvFile path)
  | some .directory => return .ok vars
  | some .file =>
    match ← files.read path with
    | .error e => return .error (.unreachable e)
    | .ok content => return addEnvFile process vars content

/-- The settings in the file at a path. -/
def parse (files : FileAccess m) (order : SetOrder) (vars : Variables) (path : String)
    (overrides : List (Scalar × Value)) : m (Except ConfigFailure Settings) := do
  return ofFile order vars (← files.read path) overrides

end

end Config

end ControlPlane
