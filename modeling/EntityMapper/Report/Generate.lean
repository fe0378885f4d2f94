import EntityMapper.Extraction.Table
import EntityMapper.Mapper.File
import EntityMapper.Report.Line
import EntityMapper.Report.OperationError
import EntityMapper.Storage.GeneratedFile

/-!
# Generating mappers

Generation first plans every file and only then writes; whatever can go wrong before writing
leaves all files as they were. A dry run ends with the plan.
-/
namespace EntityMapper

structure GenerateOptions where
  output : String := "."
  dryRun : Bool := false
  package : Option String := none
  tablesClass : Option String := none
  deriving DecidableEq, Repr

/-- What a run is going to write. -/
structure GenerationPlan where
  database : String
  /-- Classes whose mapping is disabled. -/
  skipped : List String
  files : List GeneratedFile
  deriving DecidableEq, Repr

namespace GenerationPlan

/-- The context of a table: its own strategy and the library of the mapping. -/
def contextOf (mapping : Mapping) (table : Table) : Except OperationError MapperContext :=
  match mapping.tableScope? table.className with
  | .error cause => .error (.mapping cause)
  | .ok none => .error (.noScope table.className)
  | .ok (some scope) => .ok (.ofScope mapping.library scope)

/-- The mapper files of the tables whose mapping is enabled. -/
def filesOf (mapping : Mapping) (file : MapperFile) (output : String) :
    List Table → Except OperationError (List GeneratedFile)
  | [] => return []
  | table :: rest =>
    if table.mappingEnabled then do
      let context ← contextOf mapping table
      let files ← filesOf mapping file output rest
      return ⟨Path.join output (file.relativePath table), file.render context table⟩ :: files
    else filesOf mapping file output rest

/-- Options given for the run win over those of the manifest. -/
def ofManifest (manifest : Manifest) (options : GenerateOptions) :
    Except OperationError GenerationPlan := do
  let mapping := Mapping.ofManifest manifest
  let base ← mapping.baseScope.mapError .mapping
  match options.tablesClass <|> manifest.database.tablesClass with
  | none => .error .noTablesClass
  | some tablesClass =>
    let file : MapperFile := {
      tablesClass := tablesClass
      package := options.package <|> base.get .package }
    let tables ← mapping.tables.mapError .extraction
    return {
      database := mapping.databaseName
      skipped := (tables.filter (!·.mappingEnabled)).map (·.className)
      files := ← filesOf mapping file options.output tables }

end GenerationPlan

/-- What a run did, or would have done. -/
inductive GenerationResult where
  | written (files : List (String × WriteOutcome))
  | preview (files : List (String × String))
  deriving DecidableEq, Repr

structure GenerateReport where
  database : String
  skipped : List String
  result : GenerationResult
  deriving DecidableEq, Repr

namespace GenerateReport

/-- Writes the files in order and stops at the first that cannot be written. -/
def writeFiles {m : Type → Type} [Monad m] (store : FileStore m) :
    List GeneratedFile → m (Except OperationError (List (String × WriteOutcome)))
  | [] => return .ok []
  | file :: rest => do
    match ← file.write store with
    | .error cause => return .error (.writing file.path cause)
    | .ok outcome =>
      return (← writeFiles store rest).map ((file.path, outcome) :: ·)

/-- Carries a plan out, or shows it. -/
def ofPlan {m : Type → Type} [Monad m] (store : FileStore m) (dryRun : Bool)
    (plan : GenerationPlan) : m (Except OperationError GenerateReport) := do
  if dryRun then
    return .ok ⟨plan.database, plan.skipped,
      .preview (plan.files.map fun file => (file.path, file.render))⟩
  else
    return (← writeFiles store plan.files).map fun files =>
      ⟨plan.database, plan.skipped, .written files⟩

def ofManifest {m : Type → Type} [Monad m] (store : FileStore m) (manifest : Manifest)
    (options : GenerateOptions) : m (Except OperationError GenerateReport) :=
  match GenerationPlan.ofManifest manifest options with
  | .error cause => return .error cause
  | .ok plan => ofPlan store options.dryRun plan

def fileCount (report : GenerateReport) : Nat :=
  match report.result with
  | .written files => files.length
  | .preview files => files.length

def resultLines (report : GenerateReport) : List ReportLine :=
  match report.result with
  | .written files =>
    .heading ("Generated " ++ Nat.repr files.length ++ " mappers (" ++ report.database ++ ")")
      :: files.map fun (path, outcome) =>
        match outcome with
        | .written => .addedItem path
        | .unchanged => .item (path ++ " (unchanged)")
  | .preview files =>
    files.flatMap (fun (path, content) => [.divider path, .plain content])
      ++ [.divider "Summary", .plain (Nat.repr files.length ++ " files would be generated")]

def lines (report : GenerateReport) : List ReportLine :=
  report.resultLines
    ++ (if report.skipped.isEmpty then []
        else [.empty, .heading "Mapping disabled"] ++ report.skipped.map .item)

end GenerateReport

end EntityMapper
