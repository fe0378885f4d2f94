import EntityMapper.Proofs.Extraction.Bulk
import EntityMapper.Report.Check
import EntityMapper.Report.Generate
import EntityMapper.Report.Inspect

/-!
# Check, inspect and generate agree

A check finds nothing exactly when an inspection of all tables succeeds and when a dry run of a
generation does. All three then speak of the same tables, each mapper is written with the strategy
its table was built with, and otherwise all three fail for the same cause (`operations_agree`).
-/
namespace EntityMapper

namespace CheckReport

/-- The finding about a class. -/
def finding? (mapping : Mapping) (base : Scope) (decl : ClassDeclaration) : Option String :=
  (mapping.outcome? base decl).bind fun
    | .ok _ => none
    | .error cause => some (decl.name ++ ": " ++ cause.message)

/-- What is told of a built table. -/
def summary? : Except MappingError Table → Option TableSummary
  | .ok table => some (.ofTable table)
  | .error _ => none

theorem foldl_addClass (mapping : Mapping) (base : Scope) (classes : List ClassDeclaration)
    (report : CheckReport) :
    (classes.foldl (addClass mapping base) report).tables =
        report.tables ++ (classes.filterMap (mapping.outcome? base)).filterMap summary? ∧
      (classes.foldl (addClass mapping base) report).errors =
        report.errors ++ classes.filterMap (finding? mapping base) := by
  induction classes generalizing report with
  | nil => simp
  | cons decl rest ih =>
    obtain ⟨tables, errors⟩ := ih (addClass mapping base report decl)
    rw [List.foldl_cons, tables, errors]
    cases buildable : decl.buildable? with
    | none =>
      by_cases entity : decl.kind = .entity <;>
        simp [addClass, finding?, Mapping.outcome?, buildable, entity]
    | some options =>
      cases built : mapping.buildIn decl options base with
      | error cause =>
        simp [addClass, finding?, summary?, Mapping.outcome?, buildable, built, List.filterMap_cons]
      | ok table => simp [addClass, finding?, summary?, Mapping.outcome?, buildable, built]

/-- A check finds nothing when all tables can be built, and lists them. -/
theorem foldl_addClass_of_ok {mapping : Mapping} {base : Scope} {classes : List ClassDeclaration}
    {tables : List Table} (built : mapping.tablesIn base classes = .ok tables) (report : CheckReport) :
    (classes.foldl (addClass mapping base) report).tables =
        report.tables ++ tables.map .ofTable ∧
      (classes.foldl (addClass mapping base) report).errors = report.errors := by
  obtain ⟨listed, found⟩ := foldl_addClass mapping base classes report
  have outcomes := Mapping.tablesIn_eq_ok built
  refine ⟨?_, ?_⟩
  · rw [listed, outcomes, List.filterMap_map]
    have told : summary? ∘ (.ok : Table → Except MappingError Table) = some ∘ .ofTable := rfl
    rw [told, ← List.filterMap_map, List.filterMap_some]
  · have none : classes.filterMap (finding? mapping base) = [] := by
      refine List.filterMap_eq_nil_iff.mpr fun decl member => ?_
      rw [finding?]
      cases outcome : mapping.outcome? base decl with
      | none => rfl
      | some result =>
        have among : result ∈ tables.map Except.ok := by
          rw [← outcomes]
          exact List.mem_filterMap.mpr ⟨decl, member, outcome⟩
        obtain ⟨table, _, rfl⟩ := List.mem_map.mp among
        rfl
    rw [found, none, List.append_nil]

/-- A check of tables that can all be built lists them and finds nothing. -/
theorem ofManifest_of_ok {manifest : Manifest} (configPath : String) {base : Scope}
    {tables : List Table} (based : (Mapping.ofManifest manifest).baseScope = .ok base)
    (built : (Mapping.ofManifest manifest).tablesIn base manifest.classes = .ok tables) :
    (ofManifest manifest configPath).tables = tables.map .ofTable ∧
      (ofManifest manifest configPath).errors = [] := by
  rw [ofManifest]
  simp only [based]
  exact foldl_addClass_of_ok built { configPath := configPath }

/-- The first finding is about the first class that fails. -/
theorem foldl_addClass_of_error {mapping : Mapping} {base : Scope}
    (before after : List ClassDeclaration) {decl : ClassDeclaration} {cause : MappingError}
    (fails : mapping.outcome? base decl = some (.error cause))
    (succeed : ∀ earlier ∈ before, ∀ other, mapping.outcome? base earlier ≠ some (.error other))
    (report : CheckReport) (clean : report.errors = []) :
    ((before ++ decl :: after).foldl (addClass mapping base) report).errors.head? =
      some (decl.name ++ ": " ++ cause.message) := by
  have none : before.filterMap (finding? mapping base) = [] := by
    refine List.filterMap_eq_nil_iff.mpr fun earlier member => ?_
    rw [finding?]
    cases outcome : mapping.outcome? base earlier with
    | none => rfl
    | some result =>
      cases result with
      | ok table => rfl
      | error other => exact absurd outcome (succeed earlier member other)
  have first : finding? mapping base decl = some (decl.name ++ ": " ++ cause.message) := by
    rw [finding?, fails]
    rfl
  rw [(foldl_addClass mapping base _ report).2, clean, List.filterMap_append, none,
    List.filterMap_cons_some first]
  rfl

end CheckReport

/-- An inspection of tables that can all be built shows them. -/
theorem InspectReport.ofManifest_of_ok {manifest : Manifest} {base : Scope} {tables : List Table}
    (based : (Mapping.ofManifest manifest).baseScope = .ok base)
    (built : (Mapping.ofManifest manifest).tablesIn base manifest.classes = .ok tables) :
    ∃ schemas, InspectReport.ofManifest manifest none = .ok
      { database := manifest.database.name
        dialect := manifest.database.dialect
        schemas := schemas
        tables := tables.map (.ofTable .jooq) } := by
  have resolved := Mapping.schemasIn_of_tablesIn built
  have bulk : (Mapping.ofManifest manifest).tables = .ok tables :=
    (Mapping.tables_of_base based).trans built
  have schemata : (Mapping.ofManifest manifest).schemas =
      .ok (Ascending.ofList (·.name) (tables.map (·.schema))) := by
    rw [Mapping.schemas, based]
    exact bind_eq_ok.mpr ⟨base, rfl, bind_eq_ok.mpr ⟨_, resolved, rfl⟩⟩
  refine ⟨Ascending.ofList (·.name) (tables.map (·.schema)), ?_⟩
  rw [InspectReport.ofManifest]
  simp only [InspectReport.selectTables, bulk, schemata]
  rfl

/-- The file that mappers of a run are described by. -/
def GenerateOptions.mapperFile (options : GenerateOptions) (tablesClass : String) (base : Scope) :
    MapperFile where
  tablesClass := tablesClass
  package := options.package <|> base.get .package

/-- The mapper file of a table, written with the strategy that the table was built with. -/
def Emits (mapping : Mapping) (base : Scope) (file : MapperFile) (output : String) (table : Table)
    (emitted : GeneratedFile) : Prop :=
  ∃ decl ∈ mapping.metadata.classes, ∃ options placed,
    decl.buildable? = some options ∧ mapping.buildIn decl options base = .ok table ∧
    mapping.tableScope decl options base = .ok placed ∧
    emitted = ⟨Path.join output (file.relativePath table),
      file.render ⟨mapping.library, placed.strategy⟩ table⟩

namespace GenerationPlan

/-- The tables whose mapping is enabled are emitted, in order. -/
theorem filesOf_emits {mapping : Mapping} {base : Scope} (based : mapping.baseScope = .ok base)
    (distinct : (mapping.metadata.classes.map (·.name)).Nodup) (file : MapperFile)
    (output : String) (tables : List Table)
    (built : ∀ table ∈ tables, ∃ decl ∈ mapping.metadata.classes, ∃ options,
      decl.buildable? = some options ∧ mapping.buildIn decl options base = .ok table) :
    ∃ files, filesOf mapping file output tables = .ok files ∧
      List.Forall₂ (Emits mapping base file output) (tables.filter (·.mappingEnabled)) files := by
  induction tables with
  | nil => exact ⟨[], rfl, .nil⟩
  | cons table rest ih =>
    obtain ⟨⟨decl, member, options, buildable, made⟩, others⟩ := List.forall_mem_cons.mp built
    obtain ⟨files, planned, emitted⟩ := ih others
    by_cases enabled : table.mappingEnabled = true
    · obtain ⟨placed, columns, found, _, _⟩ := Mapping.buildIn_eq_ok.mp made
      have context : contextOf mapping table = .ok ⟨mapping.library, placed.strategy⟩ := by
        rw [contextOf, Mapping.buildIn_className made,
          Mapping.tableScope?_eq based distinct member buildable found]
        simp [MapperContext.ofScope, Mapping.scope_strategy found]
      refine ⟨⟨Path.join output (file.relativePath table),
        file.render ⟨mapping.library, placed.strategy⟩ table⟩ :: files, ?_, ?_⟩
      · rw [filesOf, if_pos enabled, context, planned]
        rfl
      · rw [List.filter_cons_of_pos enabled]
        exact .cons ⟨decl, member, options, placed, buildable, made, found, rfl⟩ emitted
    · refine ⟨files, ?_, ?_⟩
      · rw [filesOf, if_neg enabled, planned]
      · rw [List.filter_cons_of_neg enabled]
        exact emitted

/-- A plan of tables that can all be built splits them by whether their mapping is enabled. -/
theorem ofManifest_of_ok {manifest : Manifest} {options : GenerateOptions} {tablesClass : String}
    {base : Scope} {tables : List Table} {files : List GeneratedFile}
    (supplied : (options.tablesClass <|> manifest.database.tablesClass) = some tablesClass)
    (based : (Mapping.ofManifest manifest).baseScope = .ok base)
    (bulk : (Mapping.ofManifest manifest).tables = .ok tables)
    (planned : filesOf (.ofManifest manifest) (options.mapperFile tablesClass base) options.output
      tables = .ok files) :
    ofManifest manifest options = .ok
      ⟨manifest.database.name, (tables.filter (!·.mappingEnabled)).map (·.className), files⟩ := by
  rw [ofManifest, supplied]
  simp only [based, bulk]
  exact bind_eq_ok.mpr ⟨base, rfl, bind_eq_ok.mpr ⟨tables, rfl, bind_eq_ok.mpr ⟨files, planned, rfl⟩⟩⟩

end GenerationPlan

/-- The three operations have gone through the same tables. -/
structure SameTables (mapping : Mapping) (options : GenerateOptions) (tablesClass : String)
    (check : CheckReport) (inspected : InspectReport) (generated : GenerateReport) : Prop where
  listed : inspected.tables.map (fun shown => TableSummary.ofTable shown.table) = check.tables
  skipped : generated.skipped =
    (check.tables.filter (!·.mappingEnabled)).map (·.className)
  emitted : ∃ base files, mapping.baseScope = .ok base ∧
    generated.result = .preview (files.map fun file => (file.path, file.render)) ∧
    List.Forall₂ (Emits mapping base (options.mapperFile tablesClass base) options.output)
      ((inspected.tables.map (·.table)).filter (·.mappingEnabled)) files
  single : ∀ className, mapping.table? className =
    .ok ((inspected.tables.map (·.table)).find? (·.className == className))

/-- The three operations fail, for the settings of the database or for the first class that
cannot be built. -/
def SameFailure (mapping : Mapping) (check : CheckReport)
    (inspected : Except OperationError InspectReport)
    (generated : Except OperationError GenerateReport) : Prop :=
  (∃ cause, mapping.baseScope = .error cause ∧
    check.errors = ["[database]: " ++ cause.message] ∧
    inspected = .error (.extraction cause) ∧ generated = .error (.mapping cause)) ∨
  ∃ base before decl after cause, mapping.baseScope = .ok base ∧
    mapping.metadata.classes = before ++ decl :: after ∧
    mapping.outcome? base decl = some (.error cause) ∧
    (∀ earlier ∈ before, ∀ other, mapping.outcome? base earlier ≠ some (.error other)) ∧
    check.errors.head? = some (decl.name ++ ": " ++ cause.message) ∧
    inspected = .error (.extraction cause) ∧ generated = .error (.extraction cause)

theorem SameFailure.isOk_eq_false {mapping : Mapping} {check : CheckReport}
    {inspected : Except OperationError InspectReport}
    {generated : Except OperationError GenerateReport}
    (same : SameFailure mapping check inspected generated) :
    inspected.isOk = false ∧ generated.isOk = false := by
  rcases same with ⟨_, _, _, rfl, rfl⟩ | ⟨_, _, _, _, _, _, _, _, _, _, rfl, rfl⟩ <;>
    exact ⟨rfl, rfl⟩

/-- What a dry run ends with. -/
def GenerateReport.preview (manifest : Manifest) (options : GenerateOptions) :
    Except OperationError GenerateReport :=
  (GenerationPlan.ofManifest manifest options).map fun plan =>
    ⟨plan.database, plan.skipped, .preview (plan.files.map fun file => (file.path, file.render))⟩

/-- A dry run does nothing but plan. -/
theorem ofManifest_dryRun {m : Type → Type} [Monad m] (store : FileStore m) (manifest : Manifest)
    {options : GenerateOptions} (dry : options.dryRun = true) :
    GenerateReport.ofManifest store manifest options =
      pure (GenerateReport.preview manifest options) := by
  rw [GenerateReport.ofManifest, GenerateReport.preview]
  cases GenerationPlan.ofManifest manifest options with
  | error cause => rfl
  | ok plan =>
    simp only [GenerateReport.ofPlan, dry, if_true]
    rfl

section Operations

variable {manifest : Manifest} (configPath : String) {options : GenerateOptions}
  {tablesClass : String}
  (supplied : (options.tablesClass <|> manifest.database.tablesClass) = some tablesClass)

include supplied

/-- Without the settings of the database, nothing is built. -/
theorem operations_without_base {cause : MappingError}
    (based : (Mapping.ofManifest manifest).baseScope = .error cause) :
    (CheckReport.ofManifest manifest configPath).isValid = false ∧
      SameFailure (.ofManifest manifest) (CheckReport.ofManifest manifest configPath)
        (InspectReport.ofManifest manifest none) (GenerateReport.preview manifest options) := by
  rw [CheckReport.ofManifest, InspectReport.ofManifest, GenerateReport.preview,
    GenerationPlan.ofManifest, supplied]
  simp only [based]
  refine ⟨rfl, .inl ⟨cause, based, rfl, ?_, ?_⟩⟩
  · simp [InspectReport.selectTables, Mapping.tables, based, bind, Except.bind, Except.mapError]
  · simp [bind, Except.bind, Except.mapError, Except.map]

/-- The first class that cannot be built decides. -/
theorem operations_without_table {base : Scope} {cause : MappingError}
    (based : (Mapping.ofManifest manifest).baseScope = .ok base)
    (built : (Mapping.ofManifest manifest).tablesIn base manifest.classes = .error cause) :
    (CheckReport.ofManifest manifest configPath).isValid = false ∧
      SameFailure (.ofManifest manifest) (CheckReport.ofManifest manifest configPath)
        (InspectReport.ofManifest manifest none) (GenerateReport.preview manifest options) := by
  obtain ⟨before, decl, after, split, fails, succeed⟩ := Mapping.tablesIn_eq_error built
  have failed : (Mapping.ofManifest manifest).tables = .error cause :=
    (Mapping.tables_of_base based).trans built
  have first := CheckReport.foldl_addClass_of_error before after fails succeed
    { configPath := configPath } rfl
  rw [← split] at first
  rw [CheckReport.ofManifest, InspectReport.ofManifest, GenerateReport.preview,
    GenerationPlan.ofManifest, supplied]
  simp only [based]
  refine ⟨?_, .inr ⟨base, before, decl, after, cause, based, split, fails, succeed, first, ?_, ?_⟩⟩
  · rw [CheckReport.isValid, List.isEmpty_eq_false_iff]
    intro empty
    rw [empty] at first
    cases first
  · simp [InspectReport.selectTables, failed, bind, Except.bind, Except.mapError]
  · simp [failed, bind, Except.bind, Except.mapError, Except.map]

/-- With all tables built, all three operations go through. -/
theorem operations_with_tables (distinct : (manifest.classes.map (·.name)).Nodup) {base : Scope}
    {tables : List Table} (based : (Mapping.ofManifest manifest).baseScope = .ok base)
    (built : (Mapping.ofManifest manifest).tablesIn base manifest.classes = .ok tables) :
    (CheckReport.ofManifest manifest configPath).isValid = true ∧
      ∃ inspection report, InspectReport.ofManifest manifest none = .ok inspection ∧
        GenerateReport.preview manifest options = .ok report ∧
        SameTables (.ofManifest manifest) options tablesClass
          (CheckReport.ofManifest manifest configPath) inspection report := by
  have bulk : (Mapping.ofManifest manifest).tables = .ok tables :=
    (Mapping.tables_of_base based).trans built
  obtain ⟨checked, clean⟩ := CheckReport.ofManifest_of_ok configPath based built
  obtain ⟨schemas, inspected⟩ := InspectReport.ofManifest_of_ok based built
  obtain ⟨files, planned, emitted⟩ := GenerationPlan.filesOf_emits based distinct
    (options.mapperFile tablesClass base) options.output tables
    fun table member => Mapping.exists_of_mem_tables built member
  have shown : (tables.map (InspectedTable.ofTable .jooq)).map (·.table) = tables := by
    simp [InspectedTable.ofTable, Function.comp_def]
  have previewed : GenerateReport.preview manifest options = .ok ⟨manifest.database.name,
      (tables.filter (!·.mappingEnabled)).map (·.className),
      .preview (files.map fun file => (file.path, file.render))⟩ := by
    rw [GenerateReport.preview, GenerationPlan.ofManifest_of_ok supplied based bulk planned]
    rfl
  refine ⟨by rw [CheckReport.isValid, clean]; rfl, _, _, inspected, previewed, ?_, ?_, ?_, ?_⟩
  · rw [checked]
    simp [InspectedTable.ofTable]
  · rw [checked]
    simp [List.filter_map, Function.comp_def, TableSummary.ofTable]
  · refine ⟨base, files, based, rfl, ?_⟩
    rw [shown]
    exact emitted
  · intro className
    rw [shown]
    exact Mapping.table?_eq bulk distinct className

end Operations

/-- Check, inspection of all tables and dry run of generation agree on every manifest whose classes
differ by name: they succeed together, on the same tables, and fail together, for the same cause. -/
theorem operations_agree {m : Type → Type} [Monad m] (store : FileStore m) (manifest : Manifest)
    (configPath : String) (options : GenerateOptions) (tablesClass : String)
    (distinct : (manifest.classes.map (·.name)).Nodup)
    (supplied : (options.tablesClass <|> manifest.database.tablesClass) = some tablesClass)
    (dry : options.dryRun = true) :
    ∃ generated, GenerateReport.ofManifest store manifest options = pure generated ∧
      ((CheckReport.ofManifest manifest configPath).isValid = true ↔
        (InspectReport.ofManifest manifest none).isOk = true) ∧
      ((CheckReport.ofManifest manifest configPath).isValid = true ↔ generated.isOk = true) ∧
      (∀ inspection report, InspectReport.ofManifest manifest none = .ok inspection →
        generated = .ok report → SameTables (.ofManifest manifest) options tablesClass
          (CheckReport.ofManifest manifest configPath) inspection report) ∧
      ((CheckReport.ofManifest manifest configPath).isValid = false →
        SameFailure (.ofManifest manifest) (CheckReport.ofManifest manifest configPath)
          (InspectReport.ofManifest manifest none) generated) := by
  refine ⟨_, ofManifest_dryRun store manifest dry, ?_⟩
  have ends : ((CheckReport.ofManifest manifest configPath).isValid = true ∧
        ∃ inspection report, InspectReport.ofManifest manifest none = .ok inspection ∧
          GenerateReport.preview manifest options = .ok report ∧
          SameTables (.ofManifest manifest) options tablesClass
            (CheckReport.ofManifest manifest configPath) inspection report) ∨
      ((CheckReport.ofManifest manifest configPath).isValid = false ∧
        SameFailure (.ofManifest manifest) (CheckReport.ofManifest manifest configPath)
          (InspectReport.ofManifest manifest none) (GenerateReport.preview manifest options)) := by
    cases based : (Mapping.ofManifest manifest).baseScope with
    | error cause => exact .inr (operations_without_base configPath supplied based)
    | ok base =>
      cases built : (Mapping.ofManifest manifest).tablesIn base manifest.classes with
      | error cause => exact .inr (operations_without_table configPath supplied based built)
      | ok tables => exact .inl (operations_with_tables configPath supplied distinct based built)
  rcases ends with ⟨valid, inspection, report, inspected, planned, same⟩ | ⟨invalid, same⟩
  · rw [inspected, planned, valid]
    refine ⟨iff_of_true rfl rfl, iff_of_true rfl rfl, ?_, by simp⟩
    rintro _ _ ⟨⟩ ⟨⟩
    exact same
  · obtain ⟨uninspected, unplanned⟩ := same.isOk_eq_false
    refine ⟨by simp [invalid, uninspected], by simp [invalid, unplanned], ?_, fun _ => same⟩
    intro _ _ inspected
    rw [inspected] at uninspected
    cases uninspected

/-- Two tables, one of them with a strategy of its own and one without mapper. -/
def depotManifest : Manifest where
  database := { name := "depot", package := some "depot.mapping" }
  classes := [
    { name := "depot.Crate"
      table := some { strategy := some "upper_snake_case" }
      fields := [{ name := "id", type := "long" },
        { name := "shelf", type := "depot.Shelf", embedded := some [] }] },
    { name := "depot.Shelf"
      kind := .embeddable
      fields := [{ name := "rowNumber", type := "int" }] },
    { name := "depot.Audit"
      table := some { mapping := false }
      fields := [{ name := "id", type := "long" }] }]

/-- The operations on the depot go through, on the same tables. -/
theorem depotManifest_operations_agree :
    ∃ inspection report,
      (CheckReport.ofManifest depotManifest "depot.toml").isValid = true ∧
      InspectReport.ofManifest depotManifest none = .ok inspection ∧
      GenerateReport.ofManifest FileTree.store depotManifest
        { dryRun := true, tablesClass := some "depot.Tables" } = pure (.ok report) ∧
      SameTables (.ofManifest depotManifest)
        { dryRun := true, tablesClass := some "depot.Tables" } "depot.Tables"
        (CheckReport.ofManifest depotManifest "depot.toml") inspection report := by
  have valid : (CheckReport.ofManifest depotManifest "depot.toml").isValid = true := by
    decide +kernel
  obtain ⟨generated, ran, inspects, generates, same, _⟩ := operations_agree FileTree.store
    depotManifest "depot.toml" { dryRun := true, tablesClass := some "depot.Tables" }
    "depot.Tables" (by decide) rfl rfl
  obtain ⟨inspection, inspected⟩ := exists_eq_ok (inspects.mp valid)
  obtain ⟨report, planned⟩ := exists_eq_ok (generates.mp valid)
  rw [planned] at ran
  exact ⟨inspection, report, valid, inspected, ran, same inspection report inspected planned⟩

end EntityMapper
