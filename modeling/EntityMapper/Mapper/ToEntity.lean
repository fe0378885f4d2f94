import EntityMapper.Mapper.Context
import EntityMapper.Mapper.Embedded

/-!
# From record to entity

The method reads every column of a record into a new entity. An embedded object is built after
the objects inside it: it is declared, takes its own columns, then the inner objects, and is
handed to the object around it.
-/
namespace EntityMapper.ToEntity

open Java (Element Expr TypeRef)

/-- Variable of the record in emitted methods. -/
def recordVariable : String := "record"

/-- Variable of the entity in emitted methods. -/
def entityVariable : String := "entity"

/-- Declares a variable with a new object of a type. -/
def declareNew (type : TypeRef) (varName : String) : Element :=
  .localVar type varName (some (.new type []))

/-- Sets a property of the object in `owner` to the column's value in the record. -/
def readColumn (context : MapperContext) (table : Table) (owner : String) (column : Column) :
    Element :=
  .expr (.send (.name owner) column.setter
    [.send (.name recordVariable) context.library.getValue
      (context.columnArguments table column none)])

/-- Hands an embedded object to the object in `owner`. -/
def attach (owner : String) (field : Embedding) : Element :=
  .expr (.send (.name owner) field.setter [.name field.varName])

mutual

/-- The statements that build an embedded object. -/
def buildObject (context : MapperContext) (table : Table) : EmbeddedObject → List Element
  | .of field columns inner =>
    buildInner context table inner
      ++ declareNew (.named field.typeName) field.varName
        :: columns.map (readColumn context table field.varName)
      ++ attachInner field.varName inner

/-- The statements that build the objects inside another, in order. -/
def buildInner (context : MapperContext) (table : Table) : List EmbeddedObject → List Element
  | [] => []
  | object :: rest => buildObject context table object ++ buildInner context table rest

/-- The statements that hand inner objects to the one in `owner`. -/
def attachInner (owner : String) : List EmbeddedObject → List Element
  | [] => []
  | .of field _ _ :: rest => attach owner field :: attachInner owner rest

end

/-- Builds each outermost object and hands it to the entity. -/
def buildOutermost (context : MapperContext) (table : Table) : List EmbeddedObject → List Element
  | [] => []
  | object :: rest =>
    buildObject context table object
      ++ attach entityVariable object.field :: buildOutermost context table rest

def body (context : MapperContext) (table : Table) : List Element :=
  declareNew (.named table.className) entityVariable
    :: table.directColumns.map (readColumn context table entityVariable)
    ++ buildOutermost context table (EmbeddedObject.ofColumns table.embeddedColumns)
    ++ [.result (some (.name entityVariable))]

def method (context : MapperContext) (table : Table) : Element :=
  .method
    { isStatic := true
      name := context.library.toEntity
      returns := some (.named table.className)
      parameters := [⟨.named context.library.recordType, recordVariable⟩] }
    (body context table)

end EntityMapper.ToEntity
