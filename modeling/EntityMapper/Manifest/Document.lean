import EntityMapper.Metadata.Source

/-!
# Manifests

A manifest declares the database an extraction is for, the converters and the classes.
-/
namespace EntityMapper

structure DatabaseOptions where
  name : String := "entities"
  dialect : String := ""
  strategy : Option String := none
  package : Option String := none
  tablesClass : Option String := none
  deriving DecidableEq, Repr

structure Manifest where
  database : DatabaseOptions := {}
  converters : Entries ConverterDeclaration := []
  classes : List ClassDeclaration := []
  deriving DecidableEq, Repr

namespace Manifest

def metadata (manifest : Manifest) : Metadata :=
  ⟨manifest.classes, manifest.converters⟩

/-- The classes that declare a table, whatever their kind. -/
def entities (manifest : Manifest) : List ClassDeclaration :=
  manifest.classes.filter (·.hasTable)

end Manifest

end EntityMapper
