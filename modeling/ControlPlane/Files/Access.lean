import ControlPlane.Text.Quoted

/-!
# Access to files

What the program asks of a file system, and how it can be refused.  `FileAccess` names the requests
for any monad, so the same program runs on a disk and on a `FileTree` in memory; making a directory
with all those above it is a program of its own on top of them.
-/

namespace ControlPlane

/-! ## refusals -/

/-- Why a file cannot be used. -/
inductive FileFault where
  | notFound
  | denied
  | alreadyThere
  | notDirectory
  | isDirectory
  | nameTooLong
  /-- A path that names nothing, because there is a zero character in it. -/
  | unnameable
  deriving DecidableEq, Repr

namespace FileFault

/-- The number of a refusal by the system. -/
def number : FileFault → Nat
  | .notFound => 2
  | .denied => 13
  | .alreadyThere => 17
  | .notDirectory => 20
  | .isDirectory => 21
  | .nameTooLong => 36
  | .unnameable => 0

/-- A refusal in words. -/
def text : FileFault → String
  | .notFound => "No such file or directory"
  | .denied => "Permission denied"
  | .alreadyThere => "File exists"
  | .notDirectory => "Not a directory"
  | .isDirectory => "Is a directory"
  | .nameTooLong => "File name too long"
  | .unnameable => "embedded null byte"

end FileFault

/-- A refused request. -/
structure FileError where
  fault : FileFault
  path : String
  deriving DecidableEq, Repr

/-- The wording of a refusal by the system. -/
def FileError.message (e : FileError) : String :=
  "[Errno " ++ toString e.fault.number ++ "] " ++ e.fault.text ++ ": " ++ Text.quoted e.path

/-! ## requests -/

/-- What a path leads to. -/
inductive FileKind where
  | file
  | directory
  deriving DecidableEq, Repr

/-- The requests to a file system. -/
structure FileAccess (m : Type → Type) where
  /-- The contents of a file. -/
  read : String → m (Except FileError (List UInt8))
  /-- A file with these contents, in the place of one that is there. -/
  write : String → List UInt8 → m (Except FileError Unit)
  /-- A new directory. -/
  makeDirectory : String → m (Except FileError Unit)
  /-- What a path leads to, if anything. -/
  kind? : String → m (Option FileKind)

/-! ## paths -/

namespace FilePath

/-- A file in a directory. -/
def join (directory name : String) : String :=
  if directory.isEmpty || directory.toList.getLast? == some '/' then directory ++ name
  else directory ++ "/" ++ name

/-- The end of a path behind its last slash, and what is in front of it. -/
def splitLast (path : List Char) : List Char × List Char :=
  let last := (path.reverse.takeWhile (· != '/')).reverse
  (path.take (path.length - last.length), last)

/-- A path without slashes at its end, unless it is made of slashes. -/
def dropSlashes (path : List Char) : List Char :=
  if path.all (· == '/') then path else (path.reverse.dropWhile (· == '/')).reverse

/-- The last name of a path, and the path of the directory that it is in. -/
def split (path : List Char) : List Char × List Char :=
  let (parent, name) := splitLast path
  (dropSlashes parent, name)

/-- The last name of a path that may end in slashes, and the path of the directory that it is in. -/
def splitName (path : List Char) : List Char × List Char :=
  let (parent, name) := split path
  if name.isEmpty then split parent else (parent, name)

end FilePath

namespace FileAccess

variable {m : Type → Type} [Monad m]

/-- A directory at a path unless there is one. -/
def ensureDirectory (files : FileAccess m) (path : String) : m (Except FileError Unit) := do
  match ← files.makeDirectory path with
  | .ok () => return .ok ()
  | .error e => return if (← files.kind? path) = some .directory then .ok () else .error e

/-- A directory at a path, with those above it.  Every round shortens the path. -/
def ensureDirectories (files : FileAccess m) : (fuel : Nat) → List Char → m (Except FileError Unit)
  | 0, path => files.ensureDirectory (String.ofList path)
  | fuel + 1, path => do
    let (parent, name) := FilePath.splitName path
    if parent.isEmpty || name.isEmpty || (← files.kind? (String.ofList parent)).isSome then
      files.ensureDirectory (String.ofList path)
    else
      match ← files.ensureDirectories fuel parent with
      | .error e =>
        if e.fault = .alreadyThere then
          if name = ['.'] then return .ok () else files.ensureDirectory (String.ofList path)
        else return .error e
      | .ok () =>
        if name = ['.'] then return .ok () else files.ensureDirectory (String.ofList path)

/-- A directory at a path, with those above it. -/
def makeDirectories (files : FileAccess m) (path : String) : m (Except FileError Unit) :=
  files.ensureDirectories path.length path.toList

end FileAccess

end ControlPlane
