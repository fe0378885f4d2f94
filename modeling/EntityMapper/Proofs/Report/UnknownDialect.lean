import EntityMapper.Proofs.Extraction.References
import EntityMapper.Proofs.Extraction.Sources
import EntityMapper.Proofs.Extraction.Union
import EntityMapper.Proofs.Manifest.Reading
import EntityMapper.Proofs.Report.Agreement
import EntityMapper.Proofs.TypeMapping.Lookup

/-!
# Dialects without type table

A dialect is looked up where a column needs a type. A field that nothing is said of and whose type
has no default converter is then no column at all, so a check of such fields alone finds nothing;
what it lists has no columns. A field with column options, an override or a declared enum as its
type is a column whatever the dialect, and makes the check fail (`unknown_dialect`).
-/
namespace EntityMapper

namespace DialectRouter

variable {router : DialectRouter} {dialect : String}

theorem sqlType_ne_ok (unknown : router.dialect? dialect = none) (type : FieldType) (sql : String) :
    router.sqlType dialect type ≠ .ok sql := by
  rw [sqlType_eq, unknown]
  simp

theorem fieldType_ne_ok (unknown : router.dialect? dialect = none) (literal : String)
    (key : TypeKey) : router.fieldType dialect literal ≠ .ok key := by
  rw [fieldType_eq, unknown]
  simp

theorem maps_eq_false (unknown : router.dialect? dialect = none) (type : FieldType) :
    router.maps dialect type = false := by
  rw [maps, unknown]
  rfl

end DialectRouter

/-- Column options, an override or an enum make the leaf path a column in every dialect. -/
def LeafPath.AsksForColumn (metadata : Metadata) (root level : ClassDeclaration) (leaf : LeafPath) :
    Prop :=
  leaf.field.column.isSome = true ∨ (leaf.entries root level).any Option.isSome = true ∨
    metadata.isEnum leaf.field.type = true

/-- Some leaf path of a table asks for a column. -/
def ClassDeclaration.AsksForColumns (metadata : Metadata) (decl : ClassDeclaration)
    (options : TableOptions) : Prop :=
  ∃ level ∈ lineage metadata decl options.inheritance, ∃ leaf,
    LeadsTo metadata level.fields leaf ∧ leaf.AsksForColumn metadata decl level

namespace ColumnFrame

variable {frame : ColumnFrame} (unknown : frame.mapping.types.dialect? frame.dialect = none)

include unknown

/-- No SQL type is found, be it a literal, that of a converter or that of the field. -/
theorem sqlType_ne_ok (literal : Option String) (converter : Option Converter) (type : FieldType)
    (sql : String) : frame.sqlType literal converter type ≠ .ok sql := by
  intro typed
  cases literal with
  | some literal =>
    obtain ⟨key, found, _⟩ := bind_eq_ok.mp typed
    exact DialectRouter.fieldType_ne_ok unknown literal key found
  | none =>
    cases converter with
    | some converter => exact DialectRouter.sqlType_ne_ok unknown _ sql typed
    | none => exact DialectRouter.sqlType_ne_ok unknown type sql typed

theorem build_ne_ok (path : FieldPath) (overrides : Option ColumnOptions) (column : Column) :
    frame.build path overrides ≠ .ok column := by
  intro built
  obtain ⟨_, converter, sql, _, _, typed, _⟩ := build_eq_ok.mp built
  exact sqlType_ne_ok unknown _ converter _ sql typed

theorem ofVisits_eq_nil {visits : List Visit} {columns : List Column}
    (built : frame.ofVisits visits = .ok columns) : columns = [] := by
  refine List.eq_nil_iff_forall_not_mem.mpr fun column member => ?_
  obtain ⟨path, overrides, _, single⟩ := mem_ofVisits built member
  exact build_ne_ok unknown path overrides column single

theorem ofLevels_eq_nil {levels : List (List Visit)} {columns : List Column}
    (built : frame.ofLevels [] levels = .ok columns) : columns = [] := by
  refine List.eq_nil_iff_forall_not_mem.mpr fun column member => ?_
  rcases mem_ofLevels built member with none | ⟨visits, _, level, made, inLevel⟩
  · cases none
  · obtain ⟨visited, _⟩ := ofLevel_eq_ok made
    rw [ofVisits_eq_nil unknown visited] at inLevel
    cases inLevel

/-- Only what asks for a column is kept. -/
theorem keepsLeaf_iff_asks {library : QueryLibrary}
    (standard : frame.mapping.converters = .standard library) (root level : ClassDeclaration)
    (leaf : LeafPath) :
    frame.keepsLeaf (levelFrame level root) leaf = true ↔
      leaf.AsksForColumn frame.mapping.metadata root level := by
  rw [keepsLeaf, keeps, isStorable, standard]
  simp only [DialectRouter.maps_eq_false unknown, Bool.false_or,
    DefaultConverters.isSome_forType?_standard, isSome_overridesFor, Bool.or_eq_true, or_assoc]
  rfl

/-- Where nothing asks for a column, only cycles of embedding fail. -/
theorem ofVisit_eq_cycle {library : QueryLibrary}
    (standard : frame.mapping.converters = .standard library) {level root : ClassDeclaration}
    {before after : Variables} {visits : List Visit}
    (walked : Walked frame.mapping.metadata (levelFrame level root) level.fields before visits after)
    (resolved : ∀ visit ∈ visits, visit.Resolved frame.mapping.metadata)
    (silent : ∀ leaf, LeadsTo frame.mapping.metadata level.fields leaf →
      ¬ leaf.AsksForColumn frame.mapping.metadata root level) {visit : Visit}
    (member : visit ∈ visits) {cause : MappingError} (failed : frame.ofVisit visit = .error cause) :
    ∃ className path, cause = .embeddingCycle className path := by
  cases visit with
  | unknownClass name referencedBy => exact (resolved _ member).elim
  | cycle className path =>
    cases failed
    exact ⟨className, path, rfl⟩
  | leaf path overrides =>
    obtain ⟨leaf, leads, parents, visited, _⟩ := walked.exists_leadsTo member rfl
    cases visited
    have dropped : ¬ frame.keepsLeaf (levelFrame level root) leaf = true := fun kept =>
      silent leaf leads ((keepsLeaf_iff_asks unknown standard root level leaf).mp kept)
    change (if frame.keepsLeaf (levelFrame level root) leaf = true then _ else _) = _ at failed
    rw [if_neg dropped] at failed
    cases failed

end ColumnFrame

namespace Mapping

variable {mapping : Mapping} {decl : ClassDeclaration} {options : TableOptions} {parent : Scope}

/-- The columns of a table are of the dialect of its scope. -/
theorem columnFrame_dialect? (mapping : Mapping) (parent : Scope) (placed : TableScope) :
    (mapping.columnFrame parent placed).mapping.types.dialect?
        (mapping.columnFrame parent placed).dialect =
      mapping.types.dialect? (mapping.dialectIn parent) := rfl

/-- A table in a dialect without type table has no columns. -/
theorem buildIn_columns_eq_nil
    (unknown : mapping.types.dialect? (mapping.dialectIn parent) = none) {table : Table}
    (built : mapping.buildIn decl options parent = .ok table) : table.columns = [] := by
  obtain ⟨placed, columns, _, levels, rfl⟩ := buildIn_eq_ok.mp built
  rw [← columnFrame_dialect? mapping parent placed] at unknown
  have empty : columns = [] := ColumnFrame.ofLevels_eq_nil unknown levels
  simp [empty, Table.ofColumns]

/-- No table is built of a class that asks for columns. -/
theorem buildIn_ne_ok {library : QueryLibrary} (standard : mapping.converters = .standard library)
    (unknown : mapping.types.dialect? (mapping.dialectIn parent) = none)
    (asks : decl.AsksForColumns mapping.metadata options) (table : Table) :
    mapping.buildIn decl options parent ≠ .ok table := by
  intro built
  obtain ⟨placed, columns, _, levels, _⟩ := buildIn_eq_ok.mp built
  rw [← columnFrame_dialect? mapping parent placed] at unknown
  obtain ⟨level, inLineage, leaf, leads, asks⟩ := asks
  obtain ⟨_, run⟩ := walkLevels_run mapping.metadata decl
    (lineage mapping.metadata decl options.inheritance) {}
  obtain ⟨visits, inLevels, _, _, walked⟩ := run.exists_walked inLineage
  obtain ⟨own, made, _⟩ := ColumnFrame.ofLevels_eq_ok.mp levels
  obtain ⟨ofLevel, _, single⟩ := exists_of_forall₂ made.flip inLevels
  obtain ⟨visited, _⟩ := ColumnFrame.ofLevel_eq_ok single
  obtain ⟨leaves, reached, shown, _⟩ := walked.leaves (ColumnFrame.ofVisits_faultless visited)
  -- The leaf path is kept, so it has a column, which cannot be built.
  have kept := (ColumnFrame.keepsLeaf_iff_asks unknown standard decl level leaf).mpr asks
  have builds := ColumnFrame.ofVisits_leaves shown visited
  obtain ⟨column, _, path, _, single⟩ := exists_of_forall₂ builds.flip
    (List.mem_filter.mpr ⟨(reached leaf).mpr leads, kept⟩)
  exact ColumnFrame.build_ne_ok unknown path _ column single

/-- The build of a class that asks for no column fails where a strategy cannot be constructed or a
cycle of embedding is met. -/
theorem buildIn_fails_otherwise {library : QueryLibrary}
    (standard : mapping.converters = .standard library)
    (unknown : mapping.types.dialect? (mapping.dialectIn parent) = none)
    (closed : mapping.metadata.Closed) (declared : decl ∈ mapping.metadata.classes)
    (silent : ¬ decl.AsksForColumns mapping.metadata options) {cause : MappingError}
    (failed : mapping.buildIn decl options parent = .error cause) :
    cause.OfStrategy ∨ ∃ className path, cause = .embeddingCycle className path := by
  rcases buildIn_eq_error.mp failed with unplaced | ⟨placed, _, failed⟩
  · exact .inl (tableScope_eq_error unplaced)
  · right
    rw [← columnFrame_dialect? mapping parent placed] at unknown
    obtain ⟨lower, visits, upper, _, split, _, failed⟩ := ColumnFrame.ofLevels_eq_error.mp failed
    have inLevels : visits ∈ walkLevels mapping.metadata decl
        (lineage mapping.metadata decl options.inheritance) {} := by simp [split]
    obtain ⟨level, inLineage, _, _, walked⟩ := walkLevels_walked inLevels
    have resolved := walkLevels_resolved closed declared inLevels
    rcases bind_eq_error.mp failed with failed | ⟨own, made, repeated⟩
    · obtain ⟨before, visit, after, _, rfl, _, failed⟩ := ColumnFrame.ofVisits_eq_error.mp failed
      refine ColumnFrame.ofVisit_eq_cycle unknown standard walked resolved
        (fun leaf leads asks => ?_) (by simp) failed
      exact silent ⟨level, inLineage, leaf, leads, asks⟩
    · rw [ColumnFrame.ofVisits_eq_nil unknown made] at repeated
      cases repeated

/-- Tables below the base settings are of the dialect of the mapping. -/
theorem dialectIn_baseScope {base : Scope} (based : mapping.baseScope = .ok base) :
    mapping.dialectIn base = mapping.dialect := by
  obtain ⟨strategy, _, returned⟩ := bind_eq_ok.mp based
  cases returned
  rw [dialectIn]
  cases mapping.package <;> simp [Scope.get_set_of_ne]

/-- What fails for which cause: the settings of the database, or else the tables of classes. -/
inductive FailsAt (mapping : Mapping) : String → MappingError → Prop where
  | database {cause : MappingError} (failed : mapping.baseScope = .error cause) :
    FailsAt mapping "[database]" cause
  | table {base : Scope} {decl : ClassDeclaration} {cause : MappingError}
    (based : mapping.baseScope = .ok base) (declared : decl ∈ mapping.metadata.classes)
    (failed : mapping.outcome? base decl = some (.error cause)) : FailsAt mapping decl.name cause

end Mapping

namespace CheckReport

variable {manifest : Manifest} {configPath : String}

/-- A check reports what fails, with its cause, and nothing else. -/
theorem mem_errors_iff {error : String} :
    error ∈ (ofManifest manifest configPath).errors ↔
      ∃ subject cause, (Mapping.ofManifest manifest).FailsAt subject cause ∧
        error = subject ++ ": " ++ cause.message := by
  rw [ofManifest]
  cases based : (Mapping.ofManifest manifest).baseScope with
  | error cause =>
    simp only [List.mem_singleton]
    constructor
    · exact fun told => ⟨_, cause, .database based, told⟩
    · rintro ⟨subject, other, fails, told⟩
      cases fails with
      | database failed =>
        cases based.symm.trans failed
        exact told
      | table scope _ _ => cases based.symm.trans scope
  | ok base =>
    simp only [(foldl_addClass _ base manifest.classes { configPath := configPath }).2,
      List.nil_append, List.mem_filterMap]
    constructor
    · rintro ⟨decl, declared, finding⟩
      obtain ⟨outcome, built, told⟩ := Option.bind_eq_some_iff.mp finding
      cases outcome with
      | ok table => cases told
      | error cause =>
        exact ⟨decl.name, cause, .table based declared built, (Option.some.inj told).symm⟩
    · rintro ⟨subject, cause, fails, rfl⟩
      cases fails with
      | database failed => cases based.symm.trans failed
      | table scope declared failed =>
        cases based.symm.trans scope
        exact ⟨_, declared, by simp [finding?, failed]⟩

/-- A check finds something exactly where something fails. -/
theorem isValid_eq_false_iff :
    (ofManifest manifest configPath).isValid = false ↔
      ∃ subject cause, (Mapping.ofManifest manifest).FailsAt subject cause := by
  rw [isValid, List.isEmpty_eq_false_iff_exists_mem]
  constructor
  · rintro ⟨error, reported⟩
    obtain ⟨subject, cause, fails, _⟩ := mem_errors_iff.mp reported
    exact ⟨subject, cause, fails⟩
  · rintro ⟨subject, cause, fails⟩
    exact ⟨_, mem_errors_iff.mpr ⟨subject, cause, fails, rfl⟩⟩

/-- What a check lists are summaries of built tables. -/
theorem exists_of_mem_tables {summary : TableSummary}
    (listed : summary ∈ (ofManifest manifest configPath).tables) :
    ∃ base, (Mapping.ofManifest manifest).baseScope = .ok base ∧
      ∃ decl ∈ manifest.classes, ∃ options table, decl.buildable? = some options ∧
        (Mapping.ofManifest manifest).buildIn decl options base = .ok table ∧
        summary = .ofTable table := by
  rw [ofManifest] at listed
  cases based : (Mapping.ofManifest manifest).baseScope with
  | error cause => simp [based] at listed
  | ok base =>
    simp only [based, (foldl_addClass _ base manifest.classes { configPath := configPath }).1,
      List.nil_append] at listed
    obtain ⟨outcome, built, told⟩ := List.mem_filterMap.mp listed
    obtain ⟨decl, member, made⟩ := List.mem_filterMap.mp built
    obtain ⟨options, buildable, made⟩ := Mapping.outcome?_eq_some.mp made
    cases outcome with
    | error cause => cases told
    | ok table =>
      cases told
      exact ⟨base, rfl, decl, member, options, table, buildable, made, rfl⟩

end CheckReport

/-- A check of a valid manifest whose dialect has no type table lists no columns, and reports what fails
with its cause. It finds something if the table of a class asks for a column, and otherwise only
strategies that cannot be constructed and cycles of embedding. -/
theorem unknown_dialect (text file : String) (manifest : Manifest) (configPath : String)
    (parsed : Manifest.parse text file = .ok manifest)
    (unknown : DialectRouter.standard.dialect? manifest.database.dialect = none) :
    let report := CheckReport.ofManifest manifest configPath
    let asked := ∃ decl ∈ manifest.classes, ∃ options, decl.buildable? = some options ∧
      decl.AsksForColumns manifest.metadata options
    (∀ table ∈ report.tables, table.columns = 0) ∧
      (asked → report.isValid = false) ∧
      (∀ error, error ∈ report.errors ↔ ∃ subject cause,
        (Mapping.ofManifest manifest).FailsAt subject cause ∧
          error = subject ++ ": " ++ cause.message) ∧
      (¬ asked → ∀ subject cause, (Mapping.ofManifest manifest).FailsAt subject cause →
        cause.OfStrategy ∨ ∃ className path, cause = .embeddingCycle className path) := by
  intro report asked
  have below {base : Scope} (based : (Mapping.ofManifest manifest).baseScope = .ok base) :
      (Mapping.ofManifest manifest).types.dialect?
        ((Mapping.ofManifest manifest).dialectIn base) = none := by
    rw [Mapping.dialectIn_baseScope based]
    exact unknown
  refine ⟨fun summary listed => ?_, ?_, fun error => CheckReport.mem_errors_iff,
    fun silent subject cause fails => ?_⟩
  · obtain ⟨base, based, _, _, _, table, _, built, rfl⟩ := CheckReport.exists_of_mem_tables listed
    exact List.length_eq_zero_iff.mpr (Mapping.buildIn_columns_eq_nil (below based) built)
  · rintro ⟨decl, member, options, buildable, asks⟩
    refine CheckReport.isValid_eq_false_iff.mpr ?_
    cases based : (Mapping.ofManifest manifest).baseScope with
    | error cause => exact ⟨_, cause, .database based⟩
    | ok base =>
      cases built : (Mapping.ofManifest manifest).buildIn decl options base with
      | ok table => exact absurd built (Mapping.buildIn_ne_ok rfl (below based) asks table)
      | error cause =>
        exact ⟨_, cause, .table based member
          (Mapping.outcome?_eq_some.mpr ⟨options, buildable, built⟩)⟩
  · have closed : manifest.metadata.Closed :=
      Manifest.validate_closed (Manifest.validate_of_parse parsed)
    cases fails with
    | database failed => exact .inl (Mapping.baseScope_eq_error failed)
    | table based member failed =>
      obtain ⟨options, buildable, failed⟩ := Mapping.outcome?_eq_some.mp failed
      exact Mapping.buildIn_fails_otherwise rfl (below based) closed member
        (fun asks => silent ⟨_, member, options, buildable, asks⟩) failed

/-- An archive whose entries inherit their number and override its name. -/
def archiveText : String := "[database]
dialect='ORACLE'
[[classes]]
name='archive.Entry'
superclass='archive.Record'
table=['entries',true]
fields=[['size','int']]
[classes.overrides.id]
name='number'
[[classes]]
name='archive.Record'
fields=[['id','long']]
"

def archiveManifest : Manifest where
  database := { dialect := "ORACLE" }
  classes := [
    { name := "archive.Entry"
      superclass := some "archive.Record"
      table := some { name := some "entries", inheritance := true }
      fields := [{ name := "size", type := "int" }]
      overrides := [("id", { name := some "number" })] },
    { name := "archive.Record"
      fields := [{ name := "id", type := "long" }] }]

set_option maxRecDepth 2000 in
/-- The override is noticed, in whatever dialect. -/
theorem archiveManifest_fails_check :
    Manifest.parse archiveText "archive.toml" = .ok archiveManifest ∧
      DialectRouter.standard.dialect? "ORACLE" = none ∧
      (CheckReport.ofManifest archiveManifest "archive.toml").isValid = false := by
  have parsed : Manifest.parse archiveText "archive.toml" = .ok archiveManifest :=
    Manifest.parse_ofList (by decide +kernel) (by decide +kernel)
  have unknown : DialectRouter.standard.dialect? "ORACLE" = none := by decide
  obtain ⟨_, asked, _, _⟩ := unknown_dialect archiveText "archive.toml" archiveManifest "archive.toml"
    parsed unknown
  refine ⟨parsed, unknown, asked ⟨archiveManifest.classes[0], List.mem_cons_self, _, rfl,
    archiveManifest.classes[1], by decide, ⟨[], { name := "id", type := "long" }⟩, ?_, ?_⟩⟩
  · exact .here List.mem_cons_self ⟨rfl, rfl⟩ rfl
  · exact .inr (.inl (by decide))

/-- An archive whose entries have a number and a size. -/
def plainArchiveText : String := "[database]
dialect='ORACLE'
[[classes]]
name='archive.Entry'
table=[]
fields=[['id','long'],['size','int']]
"

def plainArchiveManifest : Manifest where
  database := { dialect := "ORACLE" }
  classes := [
    { name := "archive.Entry"
      table := some {}
      fields := [{ name := "id", type := "long" }, { name := "size", type := "int" }] }]

/-- Of fields that are not static, transient or embedded, and of which nothing else is said, a check
finds nothing to report. -/
theorem plainArchiveManifest_passes_check :
    Manifest.parse plainArchiveText "archive.toml" = .ok plainArchiveManifest ∧
      DialectRouter.standard.dialect? plainArchiveManifest.database.dialect = none ∧
      (∃ decl ∈ plainArchiveManifest.classes, decl.buildable?.isSome = true ∧
        ∃ field ∈ decl.fields, field.isStatic = false ∧ field.isTransient = false ∧
          field.embedded = none) ∧
      (CheckReport.ofManifest plainArchiveManifest "archive.toml").errors = [] := by
  refine ⟨Manifest.parse_ofList (by decide +kernel) (by decide +kernel), by decide, ?_,
    by decide +kernel⟩
  exact ⟨_, List.mem_cons_self, rfl, _, List.mem_cons_self, rfl, rfl, rfl⟩

end EntityMapper
