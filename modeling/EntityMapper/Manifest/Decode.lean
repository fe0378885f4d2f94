import EntityMapper.Manifest.Document
import EntityMapper.Toml.Document

/-!
# Manifests from TOML

Every record of a manifest is read from a table or, member by member in declaration order, from
an array. Unknown members, missing ones without default and values of the wrong type are
refused. In an array, items beyond the last member are passed over, but not inside the value of
`embedded`.
-/
namespace EntityMapper.Manifest

open Toml (Value)

/-- Refuses surplus items of arrays that stand for records. -/
structure Strictness where
  noSurplus : Bool
  deriving DecidableEq, Repr

def lenient : Strictness := ⟨false⟩
def strict : Strictness := ⟨true⟩

/-- The members present in a record, by name. -/
def members? (strictness : Strictness) (names : List String) : Value → Option (Entries Value)
  | .table members => if members.all (names.contains ·.1) then some members else none
  | .array items =>
    if strictness.noSurplus && decide (names.length < items.length) then none
    else some (names.zip items)
  | _ => none

def text? : Value → Option String
  | .text s => some s
  | _ => none

def flag? : Value → Option Bool
  | .flag b => some b
  | _ => none

def list? {α : Type} (item? : Value → Option α) : Value → Option (List α)
  | .array items => items.mapM item?
  | _ => none

def entries? {α : Type} (value? : Value → Option α) : Value → Option (Entries α)
  | .table members => members.mapM fun (name, value) => do return (name, ← value? value)
  | _ => none

/-- A member that must be present. -/
def required {α : Type} (read : Value → Option α) (members : Entries Value) (name : String) :
    Option α :=
  (members.get? name).bind read

/-- A member that may be absent. -/
def optional {α : Type} (read : Value → Option α) (members : Entries Value) (name : String) :
    Option (Option α) :=
  match members.get? name with
  | none => some none
  | some value => (read value).map some

def withDefault {α : Type} (default : α) (read : Value → Option α) (members : Entries Value)
    (name : String) : Option α :=
  (optional read members name).map (·.getD default)

def columnOptions? (strictness : Strictness) (value : Value) : Option ColumnOptions := do
  let members ← members? strictness ["name", "type", "converter", "naming_strategy"] value
  return {
    name := ← optional text? members "name"
    sqlType := ← optional text? members "type"
    converter := ← optional text? members "converter"
    strategy := ← optional text? members "naming_strategy" }

def overrides? (strictness : Strictness) : Value → Option Overrides :=
  entries? (columnOptions? strictness)

/-- A flag, or a record of overrides; `false` is as good as nothing. -/
def embedded? : Value → Option (Option Overrides)
  | .flag true => some (some [])
  | .flag false => some none
  | value => do
    let members ← members? strict ["overrides"] value
    return some (← withDefault [] (overrides? strict) members "overrides")

def field? (value : Value) : Option FieldDeclaration := do
  let members ←
    members? lenient ["name", "type", "static", "transient", "column", "embedded"] value
  return {
    name := ← required text? members "name"
    type := ← required text? members "type"
    isStatic := ← withDefault false flag? members "static"
    isTransient := ← withDefault false flag? members "transient"
    column := ← optional (columnOptions? lenient) members "column"
    embedded := ← withDefault none embedded? members "embedded" }

def tableOptions? (value : Value) : Option TableOptions := do
  let members ← members? lenient ["name", "inheritance", "mapping", "naming_strategy"] value
  return {
    name := ← optional text? members "name"
    inheritance := ← withDefault false flag? members "inheritance"
    mapping := ← withDefault true flag? members "mapping"
    strategy := ← optional text? members "naming_strategy" }

def schemaOptions? (value : Value) : Option SchemaOptions := do
  let members ← members? lenient ["name", "naming_strategy"] value
  return {
    name := ← optional text? members "name"
    strategy := ← optional text? members "naming_strategy" }

def kindOfName? : String → Option ClassKind
  | "entity" => some .entity
  | "embeddable" => some .embeddable
  | "enum" => some .enumeration
  | _ => none

/-- The name of a kind, or a table whose only member has that name and is empty. -/
def kind? : Value → Option ClassKind
  | .text name => kindOfName? name
  | .table [(name, .table [])] => kindOfName? name
  | .table [(name, .array [])] => kindOfName? name
  | _ => none

def class? (value : Value) : Option ClassDeclaration := do
  let members ← members? lenient
    ["name", "kind", "superclass", "schema", "table", "fields", "overrides", "constants"] value
  return {
    name := ← required text? members "name"
    kind := ← withDefault .entity kind? members "kind"
    superclass := ← optional text? members "superclass"
    schema := ← optional schemaOptions? members "schema"
    table := ← optional tableOptions? members "table"
    fields := ← withDefault [] (list? field?) members "fields"
    overrides := ← withDefault [] (overrides? lenient) members "overrides"
    constants := ← withDefault [] (list? text?) members "constants" }

def converter? (value : Value) : Option ConverterDeclaration := do
  let members ← members? lenient ["from", "to", "generic"] value
  return {
    fromType := ← required text? members "from"
    toType := ← required text? members "to"
    generic := ← withDefault false flag? members "generic" }

def database? (value : Value) : Option DatabaseOptions := do
  let members ←
    members? lenient ["name", "dialect", "naming_strategy", "package", "tables_class"] value
  return {
    name := ← withDefault "entities" text? members "name"
    dialect := ← withDefault "" text? members "dialect"
    strategy := ← optional text? members "naming_strategy"
    package := ← optional text? members "package"
    tablesClass := ← optional text? members "tables_class" }

/-- The manifest a document describes. -/
def ofToml? (value : Value) : Option Manifest := do
  let members ← members? lenient ["database", "converters", "classes"] value
  return {
    database := ← withDefault {} database? members "database"
    converters := ← withDefault [] (entries? converter?) members "converters"
    classes := ← withDefault [] (list? class?) members "classes" }

end EntityMapper.Manifest
