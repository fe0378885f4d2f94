import EntityMapper.Extraction.Table
import EntityMapper.Report.Line

/-!
# Checking a manifest

Every table is built and every failure noted; an entity without table is noted too. When the
settings of the database itself fail, that is the only finding.
-/
namespace EntityMapper

structure TableSummary where
  className : String
  qualifiedName : String
  columns : Nat
  converters : Nat
  mappingEnabled : Bool
  deriving DecidableEq, Repr

def TableSummary.ofTable (table : Table) : TableSummary where
  className := table.className
  qualifiedName := table.qualifiedName
  columns := table.columns.length
  converters := table.converters.length
  mappingEnabled := table.mappingEnabled

structure CheckReport where
  configPath : String
  tables : List TableSummary := []
  unmapped : List String := []
  errors : List String := []
  deriving DecidableEq, Repr

namespace CheckReport

def isValid (report : CheckReport) : Bool :=
  report.errors.isEmpty

/-- Adds what one class gives to report. -/
def addClass (mapping : Mapping) (base : Scope) (report : CheckReport) (decl : ClassDeclaration) :
    CheckReport :=
  match decl.buildable? with
  | none =>
    if decl.kind = .entity then { report with unmapped := report.unmapped ++ [decl.name] }
    else report
  | some options =>
    match mapping.buildIn decl options base with
    | .ok table => { report with tables := report.tables ++ [.ofTable table] }
    | .error cause =>
      { report with errors := report.errors ++ [decl.name ++ ": " ++ cause.message] }

/-- Checks the classes of a manifest in order. -/
def ofManifest (manifest : Manifest) (configPath : String) : CheckReport :=
  let mapping := Mapping.ofManifest manifest
  match mapping.baseScope with
  | .error cause =>
    { configPath := configPath, errors := ["[database]: " ++ cause.message] }
  | .ok base =>
    manifest.classes.foldl (addClass mapping base) { configPath := configPath }

def summaryText (table : TableSummary) : String :=
  table.className ++ " -> " ++ table.qualifiedName ++ " (" ++ Nat.repr table.columns ++ " columns"
    ++ (if 0 < table.converters then ", " ++ Nat.repr table.converters ++ " converters" else "")
    ++ (if table.mappingEnabled then "" else ", mapping disabled") ++ ")"

/-- Only the findings when there are any, else all tables and the entities without. -/
def lines (report : CheckReport) : List ReportLine :=
  if report.isValid then
    [.plain ("✓ " ++ report.configPath ++ " is valid"), .empty,
      .heading (Nat.repr report.tables.length
        ++ (if report.tables.length = 1 then " table" else " tables"))]
      ++ report.tables.map (fun table => .item (summaryText table))
      ++ (if report.unmapped.isEmpty then []
          else [.empty, .heading "Entities without table"] ++ report.unmapped.map .item)
  else report.errors.map .finding ++ [.empty]

end CheckReport

end EntityMapper
