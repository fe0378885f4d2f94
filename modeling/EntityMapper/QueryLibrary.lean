import EntityMapper.Java.Literal
import EntityMapper.Text.Character

/-!
# The query library

Emitted sources call a fixed library. Every type name, method name and literal form they depend
on is a value here, so that another version of the library is another value.
-/
namespace EntityMapper

structure QueryLibrary where
  version : String
  recordType : String
  dataType : String
  dialectEnum : String
  defaultDialect : String
  enumConverter : String
  newRecord : String
  setValue : String
  getValue : String
  toEntity : String
  toRecord : String
  deriving DecidableEq, Repr

namespace QueryLibrary

def jooq : QueryLibrary where
  version := "jooq-3"
  recordType := "org.jooq.Record"
  dataType := "org.jooq.impl.DefaultDataType"
  dialectEnum := "org.jooq.SQLDialect"
  defaultDialect := "DEFAULT"
  enumConverter := "org.jooq.impl.EnumConverter"
  newRecord := "newRecord"
  setValue := "setValue"
  getValue := "get"
  toEntity := "toEntity"
  toRecord := "toRecord"

/-- The library's constant for a dialect; the unnamed dialect is the default one. -/
def dialectReference (library : QueryLibrary) (dialect : String) : String :=
  library.dialectEnum ++ "."
    ++ (if dialect = "" then library.defaultDialect else Text.upper dialect)

/-- The expression that describes a stored value of `className` as SQL type `sqlType`. -/
def dataTypeLiteral (library : QueryLibrary) (dialect className sqlType : String) : String :=
  "new " ++ library.dataType ++ "(" ++ library.dialectReference dialect ++ ", " ++ className
    ++ ".class, " ++ Java.quoted sqlType ++ ")"

end QueryLibrary

end EntityMapper
