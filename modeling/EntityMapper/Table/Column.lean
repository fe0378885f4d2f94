import EntityMapper.Naming.Strategy
import EntityMapper.QueryLibrary
import EntityMapper.Table.Converter

/-!
# Columns

A column stores one field, reached from the entity directly or through embedded fields. Each
embedded field on the way has a local variable of its own in emitted sources.
-/
namespace EntityMapper

/-- The type of a field: a class, array or primitive by name, or a declared enum. -/
inductive FieldType where
  | named (name : String)
  | enumeration (name : String)
  deriving DecidableEq, Repr

namespace FieldType

def name : FieldType → String
  | named name => name
  | enumeration name => name

def isEnum : FieldType → Bool
  | named _ => false
  | enumeration _ => true

def isPrimitive (type : FieldType) : Bool :=
  Java.isPrimitive type.name

def boxed (type : FieldType) : String :=
  Java.boxed type.name

end FieldType

structure SchemaName where
  database : String
  name : String
  deriving DecidableEq, Repr

structure DataType where
  schema : String
  fieldType : FieldType
  sqlType : String
  dialect : String
  converter : Option Converter
  deriving DecidableEq, Repr

namespace DataType

/-- The class of the values the database sees: what the converter reads from, or the field's own
type, boxed. -/
def storedType (type : DataType) : String :=
  match type.converter with
  | some converter => Java.boxed converter.fromType
  | none => type.fieldType.boxed

/-- The descriptor of the type in emitted sources. -/
def reference (type : DataType) (library : QueryLibrary) : String :=
  library.dataTypeLiteral type.dialect type.storedType type.sqlType

end DataType

/-- An embedded field between the entity and a column. -/
structure Embedding where
  fieldName : String
  typeName : String
  varName : String
  deriving DecidableEq, Repr

namespace Embedding

def getter (embedding : Embedding) : String :=
  Java.getterName embedding.fieldName

def setter (embedding : Embedding) : String :=
  Java.setterName embedding.fieldName

end Embedding

structure Column where
  table : String
  name : String
  fieldName : String
  dataType : DataType
  /-- The embedded fields around the column's own, outermost first. -/
  parents : List Embedding := []
  deriving DecidableEq, Repr

namespace Column

def isEmbedded (column : Column) : Bool :=
  !column.parents.isEmpty

def constant (column : Column) : String :=
  constantName column.name

def getter (column : Column) : String :=
  Java.getterName column.fieldName

def setter (column : Column) : String :=
  Java.setterName column.fieldName

def converter (column : Column) : Option Converter :=
  column.dataType.converter

/-- Field names from the entity down to the column. -/
def path (column : Column) : List String :=
  column.parents.map (·.fieldName) ++ [column.fieldName]

end Column

end EntityMapper
