import EntityMapper.Extraction.Table
import EntityMapper.Report.Json
import EntityMapper.Report.Line
import EntityMapper.Report.OperationError

/-!
# Inspecting a manifest

The tables of a manifest, all or one, with the schemas of all of them, as lines or as JSON. The
JSON form adds the type descriptor of every column.
-/
namespace EntityMapper

structure InspectedTable where
  table : Table
  /-- Column names with their type descriptors, each name once. -/
  typeReferences : List (String × String)

/-- The references are kept ascending by name; of several columns with one name the last counts. -/
def InspectedTable.ofTable (library : QueryLibrary) (table : Table) : InspectedTable where
  table := table
  typeReferences := Ascending.ofList (·.1)
    (table.columns.map fun column => (column.name, column.dataType.reference library)).reverse

structure InspectReport where
  database : String
  dialect : String
  schemas : List SchemaName
  tables : List InspectedTable

namespace InspectReport

/-- The table of the class asked for, or all tables. -/
def selectTables (mapping : Mapping) : Option String → Except OperationError (List Table)
  | some className =>
    match mapping.table? className with
    | .error cause => .error (.building className cause)
    | .ok none => .error (.noTable className)
    | .ok (some table) => .ok [table]
  | none => mapping.tables.mapError .extraction

def ofManifest (manifest : Manifest) (className : Option String) :
    Except OperationError InspectReport := do
  let mapping := Mapping.ofManifest manifest
  let tables ← selectTables mapping className
  let schemas ← mapping.schemas.mapError .schemas
  return {
    database := mapping.databaseName
    dialect := mapping.dialect
    schemas := schemas
    tables := tables.map (.ofTable mapping.library) }

def columnText (column : Column) : String :=
  column.name ++ " " ++ column.dataType.sqlType ++ " <- " ++ Text.joinWith "." column.path
    ++ (match column.converter with
        | some converter => " via " ++ converter.simpleType
        | none => "")

def tableLines (table : Table) : List ReportLine :=
  [.empty, .heading (table.qualifiedName ++ " (" ++ table.className ++ ")")]
    ++ table.columns.map fun column => .item (columnText column)

def lines (report : InspectReport) : List ReportLine :=
  [.entry "Database" report.database,
    .entry "Dialect" (MappingError.dialectLabel report.dialect), .empty, .heading "Schemas"]
    ++ report.schemas.map (fun schema => .item schema.name)
    ++ report.tables.flatMap fun inspected => tableLines inspected.table

def schemaJson (schema : SchemaName) : Json :=
  .object [("database", .text schema.database), ("name", .text schema.name)]

def fieldTypeJson (type : FieldType) : Json :=
  .object [("kind", .text (if type.isEnum then "enum" else "named")), ("name", .text type.name)]

def converterJson (converter : Converter) : Json :=
  .object [
    ("converter_type", .text converter.converterType), ("from_type", .text converter.fromType),
    ("to_type", .text converter.toType), ("generic", .flag converter.generic)]

def dataTypeJson (type : DataType) : Json :=
  .object [
    ("schema", .text type.schema), ("language_type", fieldTypeJson type.fieldType),
    ("sql_type", .text type.sqlType), ("dialect", .text type.dialect),
    ("converter", .optional converterJson type.converter)]

def embeddingJson (embedding : Embedding) : Json :=
  .object [
    ("field_name", .text embedding.fieldName), ("type_name", .text embedding.typeName),
    ("variable", .text embedding.varName)]

def columnJson (column : Column) : Json :=
  .object [
    ("table", .text column.table), ("name", .text column.name),
    ("field_name", .text column.fieldName), ("data_type", dataTypeJson column.dataType),
    ("embedded", .flag column.isEmbedded), ("parents", .array (column.parents.map embeddingJson))]

def tableMembers (table : Table) : List (String × Json) := [
  ("schema", schemaJson table.schema), ("name", .text table.name),
  ("class_name", .text table.className), ("mapping_enabled", .flag table.mappingEnabled),
  ("columns", .array (table.columns.map columnJson))]

def json (report : InspectReport) : Json :=
  .object [
    ("database", .text report.database), ("dialect", .text report.dialect),
    ("schemata", .array (report.schemas.map schemaJson)),
    ("tables", .array (report.tables.map fun inspected =>
      .object (tableMembers inspected.table ++
        [("type_references",
          .object (inspected.typeReferences.map fun (name, text) => (name, .text text)))])))]

end InspectReport

end EntityMapper
