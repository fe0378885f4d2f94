import EntityMapper.Mapper.ToEntity

/-!
# From entity to record

The method stores the direct columns of an entity in a new record. Embedded columns are not
written back.
-/
namespace EntityMapper.ToRecord

open Java (Element Expr)
open ToEntity (recordVariable entityVariable)

/-- Stores a property of the entity under its column. -/
def storeColumn (context : MapperContext) (table : Table) (column : Column) : Element :=
  .expr (.send (.name recordVariable) context.library.setValue
    (context.columnArguments table column
      (some (.send (.name entityVariable) column.getter []))))

def body (context : MapperContext) (table : Table) : List Element :=
  .localVar (.named context.library.recordType) recordVariable
      (some (.send (.name table.constant) context.library.newRecord []))
    :: table.directColumns.map (storeColumn context table)
    ++ [.result (some (.name recordVariable))]

def method (context : MapperContext) (table : Table) : Element :=
  .method
    { isStatic := true
      name := context.library.toRecord
      returns := some (.named context.library.recordType)
      parameters := [⟨.named table.className, entityVariable⟩] }
    (body context table)

end EntityMapper.ToRecord
