import EntityMapper.MappingError
import EntityMapper.Table.Column

/-!
# Type tables of SQL dialects

A dialect pairs field types with SQL type literals. Enums share one row whatever their name, and
primitives share the row of their box. A literal is looked up by its words: what stands before
the first parenthesis, cut at blanks, in lower case.
-/
namespace EntityMapper

/-- What a row of a type table is found by. -/
inductive TypeKey where
  | named (boxedName : String)
  | enumeration
  deriving DecidableEq, Repr

namespace TypeKey

def ofName (name : String) : TypeKey :=
  .named (Java.boxed name)

def ofType : FieldType → TypeKey
  | .named name => ofName name
  | .enumeration _ => .enumeration

def accepts (key : TypeKey) (type : FieldType) : Bool :=
  key == ofType type

def label : TypeKey → String
  | .named name => name
  | .enumeration => "Enum"

end TypeKey

structure TypeRow where
  key : TypeKey
  sql : String
  deriving DecidableEq, Repr

/-- The words that decide whether two SQL type literals name the same type. -/
def literalWords (literal : String) : List (List Char) :=
  ((Text.beforeFirst '(' literal.toList).splitOnP Text.isBlank).filter (· ≠ [])
    |>.map (·.map Char.toLower)

structure Dialect where
  name : String
  rows : List TypeRow := []
  deriving DecidableEq, Repr

namespace Dialect

/-- Adds a row for a named type. -/
def pair (dialect : Dialect) (type sql : String) : Dialect :=
  { dialect with rows := dialect.rows ++ [⟨.ofName type, sql⟩] }

/-- Adds the row for enums. -/
def enumPair (dialect : Dialect) (sql : String) : Dialect :=
  { dialect with rows := dialect.rows ++ [⟨.enumeration, sql⟩] }

/-- The literal of the first row for the type. -/
def sqlType? (dialect : Dialect) (type : FieldType) : Option String :=
  (dialect.rows.find? (·.key == .ofType type)).map (·.sql)

/-- The key of the first row whose literal has the same words. -/
def fieldType? (dialect : Dialect) (literal : String) : Option TypeKey :=
  (dialect.rows.find? (literalWords ·.sql == literalWords literal)).map (·.key)

def sqlType (dialect : Dialect) (type : FieldType) : Except MappingError String :=
  match dialect.sqlType? type with
  | some sql => .ok sql
  | none => .error (.typeNotFound dialect.name type.name)

def fieldType (dialect : Dialect) (literal : String) : Except MappingError TypeKey :=
  match dialect.fieldType? literal with
  | some key => .ok key
  | none => .error (.typeNotFound dialect.name literal)

/-- The dialect of standard SQL type names, which has no name of its own. -/
def standard : Dialect where
  name := ""
  rows := [
    ⟨.ofName "java.lang.String", "varchar"⟩, ⟨.ofName "int", "integer"⟩,
    ⟨.ofName "long", "bigint"⟩, ⟨.ofName "short", "smallint"⟩, ⟨.ofName "byte", "tinyint"⟩,
    ⟨.ofName "double", "double"⟩, ⟨.ofName "float", "real"⟩, ⟨.ofName "boolean", "boolean"⟩,
    ⟨.ofName "char", "char"⟩, ⟨.ofName "java.math.BigDecimal", "decimal"⟩,
    ⟨.ofName "java.time.LocalDate", "date"⟩, ⟨.ofName "java.time.LocalTime", "time"⟩,
    ⟨.ofName "java.time.LocalDateTime", "timestamp"⟩,
    ⟨.ofName "java.time.OffsetDateTime", "timestamp with time zone"⟩,
    ⟨.ofName "java.time.Instant", "timestamp with time zone"⟩,
    ⟨.ofName "java.util.UUID", "uuid"⟩, ⟨.ofName "byte[]", "varbinary"⟩,
    ⟨.enumeration, "varchar"⟩]

def postgres : Dialect where
  name := "POSTGRES"
  rows := [
    ⟨.ofName "java.lang.String", "text"⟩, ⟨.ofName "int", "int4"⟩, ⟨.ofName "long", "int8"⟩,
    ⟨.ofName "short", "int2"⟩, ⟨.ofName "double", "float8"⟩, ⟨.ofName "float", "float4"⟩,
    ⟨.ofName "boolean", "bool"⟩, ⟨.ofName "char", "bpchar"⟩,
    ⟨.ofName "java.math.BigDecimal", "numeric"⟩, ⟨.ofName "java.time.LocalDate", "date"⟩,
    ⟨.ofName "java.time.LocalTime", "time"⟩, ⟨.ofName "java.time.LocalDateTime", "timestamp"⟩,
    ⟨.ofName "java.time.OffsetDateTime", "timestamptz"⟩,
    ⟨.ofName "java.time.Instant", "timestamptz"⟩, ⟨.ofName "java.util.UUID", "uuid"⟩,
    ⟨.ofName "byte[]", "bytea"⟩, ⟨.enumeration, "varchar"⟩]

end Dialect

end EntityMapper
