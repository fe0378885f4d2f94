import EntityMapper.Extraction.Mapping

/-!
# Catalogue objects

What a database may have besides tables. A mapping discovers none of it: the lists are there so that
it can be asked what a database read from a live connection is asked.
-/
namespace EntityMapper

/-- An enumerated SQL type. -/
structure EnumDefinition where
  schema : String
  name : String
  literals : List String
  deriving DecidableEq, Repr

/-- A domain over a base SQL type. -/
structure DomainDefinition where
  schema : String
  name : String
  baseType : String
  deriving DecidableEq, Repr

structure SequenceDefinition where
  schema : String
  name : String
  deriving DecidableEq, Repr

/-- A user-defined type. -/
structure UserTypeDefinition where
  schema : String
  name : String
  deriving DecidableEq, Repr

/-- A primary or unique key. -/
structure KeyDefinition where
  table : String
  name : String
  columns : List String
  deriving DecidableEq, Repr

structure ForeignKeyDefinition where
  key : KeyDefinition
  /-- The key it references. -/
  referenced : KeyDefinition
  deriving DecidableEq, Repr

namespace Mapping

/-- Metadata declares no enumerated SQL types. -/
def enums (_ : Mapping) : List EnumDefinition := []

def domains (_ : Mapping) : List DomainDefinition := []

def sequences (_ : Mapping) : List SequenceDefinition := []

def userTypes (_ : Mapping) : List UserTypeDefinition := []

def primaryKeys (_ : Mapping) : List KeyDefinition := []

def foreignKeys (_ : Mapping) : List ForeignKeyDefinition := []

end Mapping

end EntityMapper
