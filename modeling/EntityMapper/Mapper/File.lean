import EntityMapper.Mapper.Part
import EntityMapper.Storage.Path

/-!
# Mapper files

The mapper of a table is a final class named after the entity class. Its source starts with the
package, if there is one, and the import of the table's constant.
-/
namespace EntityMapper

open Source (Buffer)

structure MapperFile where
  /-- The class that holds the table constants. -/
  tablesClass : String
  /-- The package of all mappers; without it each has that of its entity class. -/
  package : Option String := none
  parts : List MapperPart := MapperPart.standard

namespace MapperFile

def className (table : Table) : String :=
  table.simpleClassName ++ "Mapper"

def packageOf (file : MapperFile) (table : Table) : String :=
  file.package.getD (Java.packageName table.className)

/-- The directories of the package, then the file named after the class. -/
def relativePath (file : MapperFile) (table : Table) : String :=
  let directories := (Text.segments '.' (file.packageOf table)).filter (· ≠ "")
  Path.join (directories.foldl Path.join "") (className table ++ ".java")

def render (file : MapperFile) (context : MapperContext) (table : Table) : String :=
  let package := file.packageOf table
  let head : List Source.Piece :=
    (if package = "" then [] else Source.line ("package " ++ package ++ ";") ++ [.blankLine])
      ++ Source.line ("import static " ++ file.tablesClass ++ "." ++ table.constant ++ ";")
      ++ .blankLine :: ({ isFinal := true, name := className table } : Java.ClassHead).layout
  ((MapperPart.writeAll context table file.parts (Buffer.java.writeAll head)).writeAll
    Java.closeBody).text

end MapperFile

end EntityMapper
