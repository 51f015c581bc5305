import ControlPlane.Command.Program

/-!
# The installer on a disk

The program with the files of the disk, the variables of the process and the words of its command
line.  Sets keep the order in which they are written, and no shell is known.
-/

namespace ControlPlane.Disk

/-- The fault that a refusal by the system stands for. -/
def faultOf (e : IO.Error) : FileFault :=
  match e with
  | .noFileOrDirectory .. => .notFound
  | .alreadyExists .. => .alreadyThere
  | .inappropriateType _ code _ => if code = 20 then .notDirectory else .isDirectory
  | .invalidArgument _ code _ => if code = 36 then .nameTooLong else .denied
  | _ => .denied

/-- A request to the system for a path. -/
def request {α : Type} (path : String) (action : IO α) : IO (Except FileError α) := do
  if path.toList.any (·.toNat == 0) then return .error ⟨.unnameable, path⟩
  match ← action.toBaseIO with
  | .ok a => return .ok a
  | .error e => return .error ⟨faultOf e, path⟩

/-- The contents of a file. -/
def read (path : String) : IO (Except FileError (List UInt8)) :=
  request path do return (← IO.FS.readBinFile path).toList

/-- What a path leads to, found out by reading there. -/
def kind? (path : String) : IO (Option FileKind) := do
  match ← read path with
  | .ok _ => return some .file
  | .error e =>
    match e.fault with
    | .isDirectory => return some .directory
    | .denied => return some .file
    | _ => return none

/-- The files of the disk. -/
def access : FileAccess IO where
  read := read
  write path content := request path (IO.FS.writeBinFile path ⟨content.toArray⟩)
  makeDirectory path := request path (IO.FS.createDir path)
  kind? := kind?

/-- A variable in the form of its name, an equals sign and its value. -/
def variableOf? (entry : List Char) : Option (String × String) :=
  match entry.dropWhile (· != '=') with
  | _ :: value => some (String.ofList (entry.takeWhile (· != '=')), String.ofList value)
  | [] => none

/-- The variables of this process; none if the system does not tell them. -/
def processVariables : IO Variables := do
  match ← read "/proc/self/environ" with
  | .error _ => return []
  | .ok content =>
    let entries := ((Text.decodeUtf8? content).getD []).splitOn (Char.ofNat 0)
    return entries.filterMap variableOf?

/-- The answer to a shell that is not known. -/
def noShell (_ : Variables) : Command.ShellAnswer where
  status := 1
  output := ""

end ControlPlane.Disk

/-- The installer. -/
def main (words : List String) : IO UInt32 := do
  let environment ← ControlPlane.Disk.processVariables
  let outcome ← ControlPlane.Command.run ControlPlane.Disk.noShell ControlPlane.Disk.access
    ⟨environment, .asWritten⟩ words
  IO.print outcome.output
  IO.eprint outcome.errorOutput
  return outcome.status.toUInt32
