import EntityMapper.Metadata.Source
import EntityMapper.TypeMapping.Dialect

/-!
# Choosing the converter of a column

A converter named by the metadata must be declared. Without a name the type's default converter
applies, if there is one, with the boxed field type as its target.
-/
namespace EntityMapper

structure DefaultConverter where
  converterType : String
  fromType : String
  generic : Bool
  deriving DecidableEq, Repr

def DefaultConverter.forType (converter : DefaultConverter) (type : FieldType) : Converter where
  converterType := converter.converterType
  fromType := converter.fromType
  toType := type.boxed
  generic := converter.generic

structure DefaultConverters where
  rows : List (TypeKey × DefaultConverter) := []
  deriving DecidableEq, Repr

namespace DefaultConverters

/-- One default per key; registering again moves the key to the end. -/
def register (defaults : DefaultConverters) (key : TypeKey) (converter : DefaultConverter) :
    DefaultConverters :=
  ⟨defaults.rows.filter (·.1 != key) ++ [(key, converter)]⟩

/-- Enums are stored as strings through the library's own converter. -/
def standard (library : QueryLibrary) : DefaultConverters :=
  (⟨[]⟩ : DefaultConverters).register .enumeration
    ⟨library.enumConverter, "java.lang.String", true⟩

def forType? (defaults : DefaultConverters) (type : FieldType) : Option Converter :=
  (defaults.rows.find? (·.1.accepts type)).map (·.2.forType type)

/-- The converter a column of the type gets. -/
def resolve (defaults : DefaultConverters) (metadata : Metadata) (explicit : Option String)
    (type : FieldType) : Except MappingError (Option Converter) :=
  match explicit with
  | none => .ok (defaults.forType? type)
  | some name =>
    match metadata.converter? name with
    | none => .error (.converterNotDeclared name)
    | some decl => .ok (some ⟨name, decl.fromType, decl.toType, decl.generic⟩)

end DefaultConverters

end EntityMapper
