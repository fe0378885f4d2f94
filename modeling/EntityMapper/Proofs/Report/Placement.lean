import EntityMapper.Proofs.Mapper.Declarations
import EntityMapper.Proofs.Report.Files

/-!
# Paths that sources tell

Without a package for the run, the path of a mapper consists of the segments of the package that its text
names and a file after the class that its text declares. All of these are names that may be declared, so
the path is relative and stays below the output (`mapper_paths`).
-/
namespace EntityMapper

/-- The segments of the package that a source names, none without one. -/
def packageSegments (source : String) : List String :=
  ((Java.declaredPackage? source).map (Text.segments '.')).getD []

/-- The path of a source below any output, as the source tells it: its package tells the directories and
a class that it declares the file. It declares no class before, unless what it imports from has blanks or
line ends. -/
structure Places (tablesClass source relative name : String) : Prop where
  declares : "public final class " ++ name ++ " \x7b" ∈ Text.segments '\n' source
  first : ' ' ∉ tablesClass.toList → '\n' ∉ tablesClass.toList →
    Java.declaredClass? source = some name
  path : Text.segments '/' relative = packageSegments source ++ [name ++ ".java"]
  names : ∀ part ∈ name :: packageSegments source, Java.IsDeclarable part
  descends : ∀ part ∈ Text.segments '/' relative, part ≠ "." ∧ part ≠ ".."
  below : Path.isAbsolute relative = false ∧ ∀ output, Path.components (Path.join output relative) =
    Path.components output ++ Text.segments '/' relative

namespace MapperFile

variable {file : MapperFile} {table : Table}

section Declared

variable (declared : Java.IsClassName table.className)
  (given : ∀ package ∈ file.package, Java.IsClassName package)

include declared given

/-- No segment of the package is left out. -/
theorem directories_eq : file.directories table =
    if file.packageOf table = "" then [] else Text.segments '.' (file.packageOf table) := by
  rw [directories]
  split
  · rename_i unnamed
    rw [unnamed, Text.segments_of_not_mem (by decide)]
    rfl
  · rename_i packaged
    refine List.filter_eq_self.mpr fun part member => ?_
    have own := (packageOf_eq_or declared given).resolve_left packaged part member
    simpa using Java.ne_empty_of_isIdentifier own.1

theorem packageSegments_render (context : MapperContext) (path : String) :
    packageSegments (GeneratedFile.render ⟨path, file.render context table⟩) =
      file.directories table := by
  rw [packageSegments, declaredPackage?_render declared given, directories_eq declared given]
  split <;> rfl

/-- The directories of a mapper may be declared. -/
theorem isDeclarable_directories : ∀ part ∈ file.directories table, Java.IsDeclarable part := by
  rw [directories_eq declared given]
  split
  · exact List.forall_mem_nil _
  · rename_i packaged
    exact (packageOf_eq_or declared given).resolve_left packaged

/-- The path of a mapper is cut into its directories and the name of its file. -/
theorem segments_relativePath :
    Text.segments '/' (file.relativePath table) = file.directories table ++ [fileName table] := by
  have joined : file.relativePath table =
      (file.directories table ++ [fileName table]).foldl Path.join "" := by
    rw [relativePath_eq, List.foldl_append, List.foldl_cons, List.foldl_nil]
  rw [joined]
  refine Path.segments_foldl_join (by simp) fun part member => ?_
  rcases List.mem_append.mp member with inPackage | inName
  · exact Java.isComponent_of_isIdentifier (isDeclarable_directories declared given part inPackage).1
  · rw [List.mem_singleton.mp inName]
    exact isComponent_fileName (Java.isClassName_iff.mp declared).1

/-- The path of a mapper follows from its text. -/
theorem places (context : MapperContext) (path : String) :
    Places file.tablesClass (GeneratedFile.render ⟨path, file.render context table⟩)
      (file.relativePath table) (className table) := by
  have segments := packageSegments_render declared given context path
  have parts := segments_relativePath declared given
  have own := isDeclarable_directories declared given
  have components : ∀ part ∈ Text.segments '/' (file.relativePath table),
      Path.IsComponent part ∧ part ≠ ".." := by
    rw [parts]
    intro part member
    rcases List.mem_append.mp member with inPackage | inName
    · refine ⟨Java.isComponent_of_isIdentifier (own part inPackage).1, ?_⟩
      rintro rfl
      exact absurd (own _ inPackage).1 (by decide)
    · rw [List.mem_singleton.mp inName]
      exact ⟨isComponent_fileName (Java.isClassName_iff.mp declared).1, fileName_ne_up table⟩
  have relative : Path.isAbsolute (file.relativePath table) = false := by
    have name := components (fileName table) (by simp [parts])
    rw [relativePath_eq, Path.isAbsolute_join (Path.isAbsolute_of_isComponent name.1),
      Path.isAbsolute_foldl_join fun part inPackage =>
        Java.isComponent_of_isIdentifier (own part inPackage).1]
    rfl
  refine ⟨?_, fun blank lineEnd => declaredClass?_render declared given blank lineEnd context path,
    by rw [segments, parts, fileName], ?_, fun part member => ?_, relative, fun output => ?_⟩
  · obtain ⟨body, lines⟩ := file.exists_segments_render context (plain_simpleClassName declared)
      (not_mem_packageOf declared given (by decide) (by decide)) path
    simp [lines]
  · rw [segments, List.forall_mem_cons]
    exact ⟨isDeclarable_className declared, own⟩
  · exact ⟨(components part member).1.visible, (components part member).2⟩
  · have all : Path.components (file.relativePath table) = Text.segments '/' (file.relativePath table) := by
      refine List.filter_eq_self.mpr fun part member => ?_
      simp [(components part member).1.filled, (components part member).1.visible]
    rw [Path.components_join relative, all]

end Declared

end MapperFile

/-- For a manifest that can be read, the path of each mapper follows from its text, in the package that
the manifest sets or in that of its class, whether or not the other classes can be built. So it does for
all files that a run plans which sets no package. -/
theorem mapper_paths (text file : String) (manifest : Manifest)
    (parsed : Manifest.parse text file = .ok manifest) :
    (∀ decl ∈ manifest.classes, ∀ (options : TableOptions) (base : Scope) (table : Table),
      (Mapping.ofManifest manifest).buildIn decl options base = .ok table →
      ∀ (mapper : MapperFile) (context : MapperContext) (path : String),
        mapper.package = manifest.database.package →
        ∃ name, Places mapper.tablesClass
          (GeneratedFile.render ⟨path, mapper.render context table⟩) (mapper.relativePath table) name) ∧
    ∀ (options : GenerateOptions) (plan : GenerationPlan), options.package = none →
      GenerationPlan.ofManifest manifest options = .ok plan →
      ∃ base tablesClass tables, (Mapping.ofManifest manifest).baseScope = .ok base ∧
        (options.tablesClass <|> manifest.database.tablesClass) = some tablesClass ∧
        (options.tablesClass = none → ' ' ∉ tablesClass.toList ∧ '\n' ∉ tablesClass.toList) ∧
        (Mapping.ofManifest manifest).tables = .ok tables ∧
        List.Forall₂ (fun table emitted =>
          Emits (.ofManifest manifest) base (options.mapperFile tablesClass base) options.output table
            emitted ∧
          ∃ relative name, emitted.path = Path.join options.output relative ∧
            Places tablesClass emitted.render relative name)
          (tables.filter (·.mappingEnabled)) plan.files := by
  have valid := Manifest.wellFormed_of_parse parsed
  have placed (mapper : MapperFile) (table : Table) {decl : ClassDeclaration}
      (package : mapper.package = manifest.database.package) (named : table.className = decl.name)
      (member : decl ∈ manifest.classes) (context : MapperContext) (path : String) :
      Places mapper.tablesClass (GeneratedFile.render ⟨path, mapper.render context table⟩)
        (mapper.relativePath table) (MapperFile.className table) := by
    refine MapperFile.places (named ▸ valid.names decl member) (fun given chosen => ?_) context path
    exact valid.database.package given (package ▸ chosen)
  refine ⟨fun decl member options base table built mapper context path package =>
    ⟨_, placed mapper table package (Mapping.buildIn_className built) member context path⟩,
    fun options plan unpackaged planned => ?_⟩
  obtain ⟨base, tablesClass, tables, based, supplied, built, emits⟩ :=
    GenerationPlan.ofManifest_eq_ok valid.distinct planned
  have package : (options.mapperFile tablesClass base).package = manifest.database.package := by
    rw [GenerateOptions.mapperFile, Mapping.baseScope_package based, unpackaged]
    rfl
  refine ⟨base, tablesClass, tables, based, supplied, fun unset => ?_,
    (Mapping.tables_of_base based).trans built, emits.imp fun table emitted emits => ⟨emits, ?_⟩⟩
  · rw [unset] at supplied
    have own := valid.database.tablesClass tablesClass supplied
    exact ⟨own.not_mem (by decide) (by decide), own.not_mem (by decide) (by decide)⟩
  · obtain ⟨decl, declared, _, placement, _, made, _, same⟩ := emits
    have own := placed (options.mapperFile tablesClass base) table package
      (Mapping.buildIn_className made) declared
    exact ⟨(options.mapperFile tablesClass base).relativePath table, MapperFile.className table,
      by rw [same], same ▸ own _ _⟩

/-- A note in the unnamed package and a line of an order in a package of two segments. -/
def stationeryText : String := "[database]
tables_class='demo.Tables'
[[classes]]
name='Note'
table=[]
[[classes]]
name='shop.order.Line'
table=[]
fields=[['id','long']]
"

def stationeryManifest : Manifest where
  database := { tablesClass := some "demo.Tables" }
  classes := [
    { name := "Note", table := some {} },
    { name := "shop.order.Line", table := some {}, fields := [{ name := "id", type := "long" }] }]

set_option maxRecDepth 2000 in
/-- The paths of both mappers follow from their texts. -/
theorem stationeryManifest_places :
    Manifest.parse stationeryText "stationery.toml" = .ok stationeryManifest ∧
      ∃ plan, GenerationPlan.ofManifest stationeryManifest { output := "src" } = .ok plan ∧
        plan.files.map (·.path) = ["src/NoteMapper.java", "src/shop/order/LineMapper.java"] ∧
        ∀ emitted ∈ plan.files, ∃ relative name, emitted.path = Path.join "src" relative ∧
          Places "demo.Tables" emitted.render relative name := by
  have parsed : Manifest.parse stationeryText "stationery.toml" = .ok stationeryManifest :=
    Manifest.parse_ofList (by decide +kernel) (by decide +kernel)
  obtain ⟨plan, planned, listed⟩ := exists_ok_and
    (show (GenerationPlan.ofManifest stationeryManifest { output := "src" }).toOption.any (fun plan =>
        plan.files.map (·.path) == ["src/NoteMapper.java", "src/shop/order/LineMapper.java"]) = true by
      decide +kernel)
  obtain ⟨_, ofRun⟩ := mapper_paths stationeryText "stationery.toml" stationeryManifest parsed
  obtain ⟨base, tablesClass, tables, _, supplied, _, _, emits⟩ :=
    ofRun { output := "src" } plan rfl planned
  cases supplied
  refine ⟨parsed, plan, planned, beq_iff_eq.mp listed, fun emitted member => ?_⟩
  obtain ⟨table, _, _, placed⟩ := exists_of_forall₂ emits member
  exact placed

end EntityMapper
