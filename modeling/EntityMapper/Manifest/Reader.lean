import EntityMapper.Manifest.Decode
import EntityMapper.Manifest.Validation
import EntityMapper.Storage.FileTree

/-!
# Reading manifests

A manifest is read from text or from a file; only valid ones come through.
-/
namespace EntityMapper.Manifest

/-- The manifest of a text, with `file` as its name in diagnostics. -/
def parse (source file : String) : Except Diagnostic Manifest :=
  match (Toml.parse source).bind ofToml? with
  | none => .error (.malformed file)
  | some manifest => do
    manifest.validate source file
    return manifest

/-- A manifest together with where it came from. -/
structure Opened where
  path : String
  content : String
  manifest : Manifest
  deriving DecidableEq, Repr

/-- The directory of the manifest file. -/
def Opened.directory (opened : Opened) : String :=
  (Path.parent? opened.path).getD "."

/-- Reads and parses a file, under its path as given. -/
def openFile {m : Type → Type} [Monad m] (store : FileStore m) (path : String) :
    m (Except Diagnostic Opened) := do
  match ← store.read path with
  | none => return .error (.unreadable path)
  | some content => return (parse content path).map (⟨path, content, ·⟩)

end EntityMapper.Manifest
