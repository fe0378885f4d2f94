import EntityMapper.Metadata.Declaration

/-!
# Sources of metadata

Extraction reads classes and converters from a `Metadata` value: classes in order, looked up by
the first of a name. A `ClassRegistry` is filled by registration and holds each name once.
-/
namespace EntityMapper

structure Metadata where
  classes : List ClassDeclaration
  converters : Entries ConverterDeclaration
  deriving DecidableEq, Repr

namespace Metadata

def class? (metadata : Metadata) (name : String) : Option ClassDeclaration :=
  metadata.classes.find? (·.name == name)

def converter? (metadata : Metadata) (name : String) : Option ConverterDeclaration :=
  metadata.converters.get? name

def isEnum (metadata : Metadata) (type : String) : Bool :=
  (metadata.class? type).any (·.kind == .enumeration)

end Metadata

structure ClassRegistry where
  classes : Entries ClassDeclaration := []
  converters : Entries ConverterDeclaration := []
  deriving DecidableEq, Repr

namespace ClassRegistry

/-- A class registered again replaces the earlier one at its position. -/
def register (registry : ClassRegistry) (decl : ClassDeclaration) : ClassRegistry :=
  { registry with classes := Entries.insert decl.name decl registry.classes }

def registerConverter (registry : ClassRegistry) (name : String) (decl : ConverterDeclaration) :
    ClassRegistry :=
  { registry with converters := Entries.insert name decl registry.converters }

/-- The class registered last under the name. -/
def class? (registry : ClassRegistry) (name : String) : Option ClassDeclaration :=
  registry.classes.get? name

def converter? (registry : ClassRegistry) (name : String) : Option ConverterDeclaration :=
  registry.converters.get? name

def isEnum (registry : ClassRegistry) (type : String) : Bool :=
  (registry.class? type).any (·.kind == .enumeration)

def metadata (registry : ClassRegistry) : Metadata :=
  ⟨registry.classes.values, registry.converters⟩

/-- Registers everything a metadata holds, in order. -/
def ofMetadata (metadata : Metadata) : ClassRegistry :=
  metadata.converters.foldl (fun registry (name, decl) => registry.registerConverter name decl)
    (metadata.classes.foldl register {})

def size (registry : ClassRegistry) : Nat :=
  registry.classes.length

end ClassRegistry

end EntityMapper
