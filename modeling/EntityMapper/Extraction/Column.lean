import EntityMapper.Extraction.Mapping
import EntityMapper.Extraction.Walk

/-!
# From visits to columns

A leaf becomes a column unless nothing is said of it and its type has no mapping. The options of
a column are its merged overrides over what the field declares.
-/
namespace EntityMapper

/-- What the columns of one table share. -/
structure ColumnFrame where
  mapping : Mapping
  table : String
  schema : String
  dialect : String
  strategy : NamingStrategy

namespace ColumnFrame

/-- Whether a field type can be stored without column options. -/
def isStorable (frame : ColumnFrame) (typeName : String) : Bool :=
  let type := frame.mapping.fieldType typeName
  frame.mapping.types.maps frame.dialect type || (frame.mapping.converters.forType? type).isSome

/-- Whether a leaf becomes a column. -/
def keeps (frame : ColumnFrame) (field : FieldDeclaration) (overrides : Option ColumnOptions) :
    Bool :=
  field.column.isSome || overrides.isSome || frame.isStorable field.type

/-- The options in force for a leaf. -/
def optionsFor (field : FieldDeclaration) (overrides : Option ColumnOptions) : ColumnOptions :=
  match overrides with
  | some upper => upper.orElse (field.column.getD .unset)
  | none => field.column.getD .unset

/-- An overriding name stands alone; a declared name or the field's own follows the fragments of
the fields around it. -/
def columnName (strategy : NamingStrategy) (path : FieldPath) (overrides : Option ColumnOptions) :
    String :=
  match overrides.bind (·.name) with
  | some name => strategy.resolveOne name
  | none =>
    strategy.resolve
      (path.site.fragments ++ [(path.field.column.bind (·.name)).getD path.field.name])

/-- The SQL type of a column: a literal the dialect knows, or the dialect's type for what the
converter reads or else for the field. -/
def sqlType (frame : ColumnFrame) (literal : Option String) (converter : Option Converter)
    (type : FieldType) : Except MappingError String :=
  match literal with
  | some literal => do
    let _ ← frame.mapping.types.fieldType frame.dialect literal
    return literal
  | none =>
    match converter with
    | some converter => frame.mapping.types.sqlType frame.dialect (.named converter.fromType)
    | none => frame.mapping.types.sqlType frame.dialect type

/-- The column of a leaf. -/
def build (frame : ColumnFrame) (path : FieldPath) (overrides : Option ColumnOptions) :
    Except MappingError Column := do
  let options := optionsFor path.field overrides
  let strategy ← match options.strategy with
    | some name => frame.mapping.strategies.make name
    | none => .ok frame.strategy
  let type := frame.mapping.fieldType path.field.type
  let converter ← frame.mapping.converters.resolve frame.mapping.metadata options.converter type
  let sql ← frame.sqlType options.sqlType converter type
  return {
    table := frame.table
    name := columnName strategy path overrides
    fieldName := path.field.name
    dataType := ⟨frame.schema, type, sql, frame.dialect, converter⟩
    parents := path.site.parents }

/-- The column a visit leads to, if any. -/
def ofVisit (frame : ColumnFrame) : Visit → Except MappingError (Option Column)
  | .unknownClass name referencedBy => .error (.unknownClass name referencedBy)
  | .cycle className path => .error (.embeddingCycle className path)
  | .leaf path overrides =>
    if frame.keeps path.field overrides then return some (← frame.build path overrides)
    else return none

/-- The columns of the visits in order; the first error wins. -/
def ofVisits (frame : ColumnFrame) : List Visit → Except MappingError (List Column)
  | [] => return []
  | visit :: rest => do
    let column ← frame.ofVisit visit
    let columns ← frame.ofVisits rest
    return column.toList ++ columns

/-- The first name in the list that occurred before. -/
def firstRepeat (seen : List String) : List String → Option String
  | [] => none
  | name :: rest => if name ∈ seen then some name else firstRepeat (name :: seen) rest

/-- The columns of one level, which must differ in name. -/
def ofLevel (frame : ColumnFrame) (visits : List Visit) : Except MappingError (List Column) := do
  let columns ← frame.ofVisits visits
  match firstRepeat [] (columns.map (·.name)) with
  | some name => .error (.duplicateColumn frame.table name)
  | none => return columns

/-- The columns of all levels; one whose name a lower level has already is shadowed. -/
def ofLevels (frame : ColumnFrame) (columns : List Column) :
    List (List Visit) → Except MappingError (List Column)
  | [] => return columns
  | visits :: rest => do
    let level ← frame.ofLevel visits
    frame.ofLevels
      (columns ++ level.filter fun column => columns.all (·.name != column.name)) rest

end ColumnFrame

end EntityMapper
