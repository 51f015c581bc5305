import ControlPlane.Files.Access
import ControlPlane.Value.Entries

/-!
# Files in memory

A tree of files and directories, as seen from a working directory.  Every name is looked up in the
directory so far: a dot stays in it, and two dots lead to the one above.  There are no links, so a
file has one place only.  What lies above the working directory, and what an absolute path leads to,
is a tree of its own that starts out empty.
-/

namespace ControlPlane

/-- The names that lead to a place, the last one first. -/
abbrev Location := List String

/-- The files and directories of a tree.  The places that paths start from are always there. -/
structure FileTree where
  /-- The contents of a file, or none for a directory. -/
  nodes : Entries Location (Option (List UInt8)) := []
  deriving Repr

namespace FileTree

/-- The place that absolute paths start from. -/
def top : Location := ["/"]

/-- Whether a place is one that paths start from, or above the working directory. -/
def isStart (l : Location) : Bool := l == top || l.all (· == "..")

/-- The directory above a place. -/
def above (l : Location) : Location :=
  if l == top then top else if isStart l then ".." :: l else l.tail

/-- What is at a place. -/
inductive Node where
  | directory
  | file (content : List UInt8)

/-- What is at a place, if anything. -/
def node? (t : FileTree) (l : Location) : Option Node :=
  if isStart l then some .directory
  else (Entries.get? (· == ·) l t.nodes).map fun
    | some content => .file content
    | none => .directory

/-! ## walking -/

/-- The greatest number of bytes of a name. -/
def nameLimit : Nat := 255

/-- The least number of bytes that a path cannot have. -/
def pathLimit : Nat := 4096

/-- A text split at every slash, without empty parts. -/
def names (path : String) : List String :=
  ((path.toList.splitOn '/').filter (!·.isEmpty)).map String.ofList

/-- The place that names lead to from a directory.  All but the last of them have to be there. -/
def walk (t : FileTree) (l : Location) : List String → Except FileFault Location
  | [] => .ok l
  | name :: rest =>
    match t.node? l with
    | none => .error .notFound
    | some (.file _) => .error .notDirectory
    | some .directory =>
      if name = "." then t.walk l rest
      else if name = ".." then t.walk (above l) rest
      else if nameLimit < name.utf8ByteSize then .error .nameTooLong
      else t.walk (name :: l) rest

/-- The place that a path leads to. -/
def locate (t : FileTree) (path : String) : Except FileFault Location :=
  if path.isEmpty then .error .notFound
  else if path.toList.any (·.toNat == 0) then .error .unnameable
  else if pathLimit ≤ path.utf8ByteSize then .error .nameTooLong
  else t.walk (if path.toList.head? = some '/' then top else []) (names path)

/-- Whether a path can only lead to a directory. -/
def endsInSlash (path : String) : Bool := path.toList.getLast? == some '/'

/-- What a path leads to. -/
def find (t : FileTree) (path : String) : Except FileFault Node :=
  match t.locate path with
  | .error f => .error f
  | .ok l =>
    match t.node? l with
    | none => .error .notFound
    | some .directory => .ok .directory
    | some (.file content) =>
      if endsInSlash path then .error .notDirectory else .ok (.file content)

/-! ## requests -/

/-- The contents of a file. -/
def read (t : FileTree) (path : String) : Except FileError (List UInt8) :=
  match t.find path with
  | .error f => .error ⟨f, path⟩
  | .ok .directory => .error ⟨.isDirectory, path⟩
  | .ok (.file content) => .ok content

/-- What a path leads to, if anything. -/
def kind? (t : FileTree) (path : String) : Option FileKind :=
  match t.find path with
  | .error _ => none
  | .ok .directory => some .directory
  | .ok (.file _) => some .file

/-- The tree with something at a place. -/
def put (t : FileTree) (l : Location) (content : Option (List UInt8)) : FileTree :=
  ⟨Entries.put (· == ·) l content t.nodes⟩

/-- The tree with a file of these contents. -/
def write (t : FileTree) (path : String) (content : List UInt8) : Except FileError FileTree :=
  match t.locate path with
  | .error f => .error ⟨f, path⟩
  | .ok l =>
    match t.node? l with
    | some .directory => .error ⟨.isDirectory, path⟩
    | some (.file _) =>
      if endsInSlash path then .error ⟨.notDirectory, path⟩ else .ok (t.put l (some content))
    | none => if endsInSlash path then .error ⟨.isDirectory, path⟩ else .ok (t.put l (some content))

/-- The tree with a new directory. -/
def makeDirectory (t : FileTree) (path : String) : Except FileError FileTree :=
  match t.locate path with
  | .error f => .error ⟨f, path⟩
  | .ok l => if (t.node? l).isSome then .error ⟨.alreadyThere, path⟩ else .ok (t.put l none)

/-- A request that may change the tree. -/
def change (f : FileTree → Except FileError FileTree) : StateM FileTree (Except FileError Unit) :=
  fun t =>
    match f t with
    | .ok u => (.ok (), u)
    | .error e => (.error e, t)

/-- A tree as the file system of a program. -/
def access : FileAccess (StateM FileTree) where
  read path := return (← get).read path
  write path content := change fun t => t.write path content
  makeDirectory path := change fun t => t.makeDirectory path
  kind? path := return (← get).kind? path

/-! ## whole trees -/

/-- The tree with the directories above a place. -/
def putAbove (t : FileTree) : Location → FileTree
  | [] => t
  | _ :: l => if isStart l then t else (putAbove t l).put l none

/-- The tree with a file at a relative path, and the directories above it. -/
def add (t : FileTree) (path : String) (content : List UInt8) : FileTree :=
  let l := (names path).reverse
  (t.putAbove l).put l (some content)

/-- The files in the working directory, by their relative paths. -/
def files (t : FileTree) : List (String × List UInt8) :=
  t.nodes.filterMap fun e =>
    match e.2 with
    | some content =>
      let path := e.1.reverse
      if path.head? = some "/" ∨ path.head? = some ".." then none
      else some ("/".intercalate path, content)
    | none => none

end FileTree

end ControlPlane
