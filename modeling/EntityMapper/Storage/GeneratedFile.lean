import EntityMapper.Storage.FileTree

/-!
# Generated files

A generated file starts with a header line. Writing leaves a file alone that holds the very text
already.
-/
namespace EntityMapper

structure GeneratedFile where
  path : String
  content : String
  deriving DecidableEq, Repr

inductive WriteOutcome where
  | written | unchanged
  deriving DecidableEq, Repr

namespace GeneratedFile

/-- The first line of every generated file. -/
def header : String := "// This file is generated by rowbind. Do not edit."

def render (file : GeneratedFile) : String :=
  header ++ "\n" ++ file.content

/-- Brings the file to its text, or tells why it cannot be written. -/
def write {m : Type → Type} [Monad m] (store : FileStore m) (file : GeneratedFile) :
    m (Except String WriteOutcome) := do
  if (← store.read file.path) = some file.render then
    return .ok .unchanged
  else
    return (← store.write file.path file.render).map fun _ => .written

end GeneratedFile

end EntityMapper
