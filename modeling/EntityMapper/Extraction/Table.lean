import EntityMapper.Extraction.Column
import EntityMapper.Extraction.Schema
import EntityMapper.Table.Basic

/-!
# Tables of a mapping

A class is buildable when it is no enum and declares a table. Each table is built on its own, in
the scope of the mapping with the table's schema, name and strategy set in a layer inside it.
-/
namespace EntityMapper

/-- The table options of a buildable class. -/
def ClassDeclaration.buildable? (decl : ClassDeclaration) : Option TableOptions :=
  if decl.kind = .enumeration then none else decl.table

/-- What the build of one table works with. -/
structure TableScope where
  schema : SchemaName
  name : String
  strategy : NamingStrategy
  scope : Scope

namespace Mapping

/-- Resolves the schema first, then the table's strategy and name. -/
def tableScope (mapping : Mapping) (decl : ClassDeclaration) (options : TableOptions)
    (parent : Scope) : Except MappingError TableScope := do
  let schema ← mapping.schemaOf decl parent
  let strategy ← mapping.strategyIn parent options.strategy
  let name := strategy.resolveOne (options.name.getD (Java.simpleName decl.name))
  return {
    schema := schema
    name := name
    strategy := strategy
    scope := ((parent.enter.set .strategy strategy).set .schema schema).set .tableName name }

/-- Builds the table of a buildable class in a scope. -/
def buildIn (mapping : Mapping) (decl : ClassDeclaration) (options : TableOptions)
    (parent : Scope) : Except MappingError Table := do
  let table ← mapping.tableScope decl options parent
  let frame : ColumnFrame := {
    mapping := mapping
    table := table.name
    schema := table.schema.name
    dialect := (table.scope.get .dialect).getD mapping.dialect
    strategy := table.strategy }
  let levels := walkLevels mapping.metadata decl
    (lineage mapping.metadata decl options.inheritance) {}
  let columns ← frame.ofLevels [] levels
  return Table.ofColumns table.schema table.name decl.name options.mapping columns

/-- The table of every buildable class, in class order; the first error wins. -/
def tablesIn (mapping : Mapping) (base : Scope) :
    List ClassDeclaration → Except MappingError (List Table)
  | [] => return []
  | decl :: rest =>
    match decl.buildable? with
    | none => mapping.tablesIn base rest
    | some options => do
      let table ← mapping.buildIn decl options base
      let tables ← mapping.tablesIn base rest
      return table :: tables

def tables (mapping : Mapping) : Except MappingError (List Table) := do
  let base ← mapping.baseScope
  mapping.tablesIn base mapping.metadata.classes

/-- The declared class of that name with its table options, if it is buildable. -/
def buildableClass? (mapping : Mapping) (className : String) :
    Option (ClassDeclaration × TableOptions) := do
  let decl ← mapping.metadata.class? className
  let options ← decl.buildable?
  return (decl, options)

/-- The table of one class; none when it is unknown or not buildable. -/
def table? (mapping : Mapping) (className : String) : Except MappingError (Option Table) :=
  match mapping.buildableClass? className with
  | none => return none
  | some (decl, options) => do
    let base ← mapping.baseScope
    return some (← mapping.buildIn decl options base)

/-- The scope a table is built in. For a declared class the base scope has to resolve even if the
class is not buildable. -/
def tableScope? (mapping : Mapping) (className : String) : Except MappingError (Option Scope) :=
  match mapping.metadata.class? className with
  | none => return none
  | some decl => do
    let base ← mapping.baseScope
    match decl.buildable? with
    | none => return none
    | some options => return some (← mapping.tableScope decl options base).scope

/-- The schema of every buildable class, in class order. -/
def schemasIn (mapping : Mapping) (base : Scope) :
    List ClassDeclaration → Except MappingError (List SchemaName)
  | [] => return []
  | decl :: rest =>
    match decl.buildable? with
    | none => mapping.schemasIn base rest
    | some _ => do
      let schema ← mapping.schemaOf decl base
      let schemas ← mapping.schemasIn base rest
      return schema :: schemas

/-- Every schema once, ascending by name. -/
def schemas (mapping : Mapping) : Except MappingError (List SchemaName) := do
  let base ← mapping.baseScope
  return Ascending.ofList (·.name) (← mapping.schemasIn base mapping.metadata.classes)

end Mapping

end EntityMapper
