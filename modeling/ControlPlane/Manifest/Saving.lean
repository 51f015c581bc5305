import ControlPlane.Files.Access
import ControlPlane.Text.Utf8
import ControlPlane.Yaml.Print

/-!
# Saving a manifest

A manifest is saved as YAML in a directory, in a file named after the workload.
-/

namespace ControlPlane.Manifest

/-- The name of the file for a manifest. -/
def fileName (m : Manifest) : String := m.shownName ++ ".yaml"

/-- The path of a manifest's file in a directory. -/
def filePath (m : Manifest) (directory : String) : String := FilePath.join directory m.fileName

/-- The manifest written into a directory, which is made if it is missing: the path of the file. -/
def save {M : Type → Type} [Monad M] (m : Manifest) (files : FileAccess M) (directory : String) :
    M (Except FileError String) := do
  match ← files.makeDirectories directory with
  | .error e => return .error e
  | .ok () =>
    let path := m.filePath directory
    match ← files.write path (Text.encodeUtf8 m.toYaml) with
    | .error e => return .error e
    | .ok () => return .ok path

end ControlPlane.Manifest
