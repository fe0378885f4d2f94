import EntityMapper.Manifest.Document
import EntityMapper.Naming.Catalog
import EntityMapper.Scope
import EntityMapper.TypeMapping.DefaultConverters
import EntityMapper.TypeMapping.Router

/-!
# Mappings

A mapping is all that the extraction of tables depends on: the metadata, how the database is
called, and the strategies, dialects and converters in force.
-/
namespace EntityMapper

structure Mapping where
  metadata : Metadata
  databaseName : String := "entities"
  dialect : String := ""
  strategyName : Option String := none
  package : Option String := none
  strategies : StrategyCatalog := .standard
  types : DialectRouter := .standard
  converters : DefaultConverters := .standard .jooq
  library : QueryLibrary := .jooq

namespace Mapping

def ofMetadata (metadata : Metadata) : Mapping where
  metadata := metadata

/-- The mapping a manifest declares. -/
def ofManifest (manifest : Manifest) : Mapping where
  metadata := manifest.metadata
  databaseName := manifest.database.name
  dialect := manifest.database.dialect
  strategyName := manifest.database.strategy
  package := manifest.database.package

/-- A type by name: a declared enum, or a class, array or primitive. -/
def fieldType (mapping : Mapping) (name : String) : FieldType :=
  if mapping.metadata.isEnum name then .enumeration name else .named name

/-- The settings every table starts from. -/
def baseScope (mapping : Mapping) : Except MappingError Scope := do
  let strategy ← mapping.strategies.resolve mapping.strategyName
  let scope := ((Scope.empty.set .database mapping.databaseName).set .dialect mapping.dialect).set
    .strategy strategy
  return match mapping.package with
    | some package => scope.set .package package
    | none => scope

/-- A strategy by name, or without a name the one in scope. -/
def strategyIn (mapping : Mapping) (scope : Scope) (name : Option String) :
    Except MappingError NamingStrategy :=
  match name with
  | some name => mapping.strategies.make name
  | none => .ok ((scope.get .strategy).getD mapping.strategies.default)

end Mapping

end EntityMapper
