import EntityMapper.Proofs.Java.Name
import EntityMapper.Proofs.Manifest.Distinct
import EntityMapper.Proofs.Report.Agreement
import EntityMapper.Proofs.Storage.FileTree

/-!
# The files of a run

The path of a mapper ends with its place: the package of its entity class, unless all mappers have one
package, and the name of the file. So two tables share a path exactly if all mappers have one package
and both classes have one simple name. Files are written one after the other (`read_writeFiles`), so of
those at one path the last one is left (`mapper_files`).
-/
namespace EntityMapper

theorem Java.isComponent_of_isIdentifier {name : String} (identifier : isIdentifier name = true) :
    Path.IsComponent name where
  filled := ne_empty_of_isIdentifier identifier
  visible := by
    rintro rfl
    exact absurd identifier (by decide)
  uncut := not_mem_of_isIdentifier identifier (by decide)

namespace MapperFile

def fileName (table : Table) : String :=
  className table ++ ".java"

/-- The directories of the package. -/
def directories (file : MapperFile) (table : Table) : List String :=
  (Text.segments '.' (file.packageOf table)).filter (· ≠ "")

/-- What the path of a mapper ends with. -/
def place (file : MapperFile) (table : Table) : List String :=
  (if file.package.isSome then [] else file.directories table) ++ [fileName table]

theorem relativePath_eq (file : MapperFile) (table : Table) :
    file.relativePath table =
      Path.join ((file.directories table).foldl Path.join "") (fileName table) := rfl

variable {file : MapperFile} {table other : Table}

/-- The suffix of the class tells the name from what stands for no file. -/
theorem mem_fileName (table : Table) : 'M' ∈ (fileName table).toList := by
  simp [fileName, className]

theorem fileName_ne_up (table : Table) : fileName table ≠ ".." := by
  intro up
  exact absurd (up ▸ mem_fileName table) (by decide)

theorem isComponent_fileName (qualified : Java.isQualifiedName table.className = true) :
    Path.IsComponent (fileName table) := by
  have simple := Java.isComponent_of_isIdentifier (Java.isIdentifier_simpleName qualified)
  refine ⟨fun empty => ?_, fun point => ?_, ?_⟩
  · exact absurd (empty ▸ mem_fileName table) (by decide)
  · exact absurd (point ▸ mem_fileName table) (by decide)
  · simp only [fileName, className, String.toList_append, List.mem_append]
    rintro ((inSimple | inSuffix) | inEnding)
    · exact simple.uncut inSimple
    · exact absurd inSuffix (by decide)
    · exact absurd inEnding (by decide)

theorem fileName_inj : fileName table = fileName other ↔
    table.simpleClassName = other.simpleClassName := by
  simp [fileName, className, String.append_left_inj]

/-- Without a package for all mappers, directories are named by the package of the class. -/
theorem directories_named (unpackaged : file.package = none)
    (qualified : Java.isQualifiedName table.className = true) {part : String}
    (member : part ∈ file.directories table) : Java.isIdentifier part = true := by
  apply Java.isIdentifier_of_mem_segments qualified
  rw [Java.segments_qualifiedName qualified]
  refine List.mem_append_left _ ?_
  simpa [directories, packageOf, unpackaged] using member

theorem not_mem_place (qualified : Java.isQualifiedName table.className = true) :
    ".." ∉ file.place table := by
  intro member
  rcases List.mem_append.mp member with inPackage | inName
  · cases package : file.package with
    | some _ => simp [package] at inPackage
    | none =>
      simp only [package, Option.isSome_none, Bool.false_eq_true, if_false] at inPackage
      exact absurd (directories_named package qualified inPackage) (by decide)
  · exact fileName_ne_up table (List.mem_singleton.mp inName).symm

/-- All paths of a run begin alike, at the root or not, and end with their places. -/
theorem exists_components (file : MapperFile) (output : String) :
    ∃ base absolute, ∀ table : Table, Java.isQualifiedName table.className = true →
      Path.isAbsolute (Path.join output (file.relativePath table)) = absolute ∧
        Path.components (Path.join output (file.relativePath table)) = base ++ file.place table := by
  cases package : file.package with
  | none =>
    refine ⟨Path.components output, Path.isAbsolute output, fun table qualified => ?_⟩
    have name := isComponent_fileName qualified
    have named : ∀ part ∈ file.directories table, Path.IsComponent part := fun part member =>
      Java.isComponent_of_isIdentifier (directories_named package qualified member)
    have single := Path.isAbsolute_of_isComponent name
    have relative : Path.isAbsolute (file.relativePath table) = false := by
      rw [relativePath_eq, Path.isAbsolute_join single, Path.isAbsolute_foldl_join named]
      rfl
    refine ⟨Path.isAbsolute_join relative, ?_⟩
    rw [Path.components_join relative, relativePath_eq, Path.components_join single,
      Path.components_foldl_join named, Path.components_empty, List.nil_append,
      Path.components_of_isComponent name, place, package]
    rfl
  | some fixed =>
    -- The package of the options is any text, so its directory may even be absolute.
    obtain ⟨base, absolute, below⟩ := Path.exists_components_join output
      (((Text.segments '.' fixed).filter (· ≠ "")).foldl Path.join "")
    refine ⟨base, absolute, fun table qualified => ?_⟩
    have parts := below (fileName table) (isComponent_fileName qualified)
    rw [relativePath_eq, directories, packageOf, place, package]
    exact parts

/-- Tables at one place have one simple name, and are of one class where each class has its own
package. -/
theorem place_inj (qualified : Java.isQualifiedName table.className = true)
    (otherQualified : Java.isQualifiedName other.className = true) :
    file.place table = file.place other ↔
      table.simpleClassName = other.simpleClassName ∧
        (file.package = none → table.className = other.className) := by
  cases package : file.package with
  | some fixed => simp [place, package, fileName_inj]
  | none =>
    simp only [place, package, Option.isSome_none, Bool.false_eq_true, if_false, directories, packageOf,
      Option.getD_none, forall_const]
    constructor
    · intro same
      obtain ⟨packages, names⟩ := List.append_inj' same (by simp)
      have simple : Java.simpleName table.className = Java.simpleName other.className :=
        fileName_inj.mp (List.singleton_inj.mp names)
      have parts : Text.segments '.' table.className = Text.segments '.' other.className := by
        rw [Java.segments_qualifiedName qualified, Java.segments_qualifiedName otherQualified, packages,
          simple]
      exact ⟨simple, Text.segments_injective parts⟩
    · rintro ⟨simple, classes⟩
      rw [classes, fileName_inj.mpr simple]

/-- Tables have one path exactly if they have one place. -/
theorem path_inj (output : String) (qualified : Java.isQualifiedName table.className = true)
    (otherQualified : Java.isQualifiedName other.className = true) :
    Path.join output (file.relativePath table) = Path.join output (file.relativePath other) ↔
      file.place table = file.place other := by
  constructor
  · intro same
    obtain ⟨base, _, components⟩ := exists_components file output
    have parts := congrArg Path.components same
    rw [(components table qualified).2, (components other otherQualified).2] at parts
    exact List.append_cancel_left parts
  · intro same
    obtain ⟨simple, classes⟩ := (place_inj qualified otherQualified).mp same
    have directory : file.packageOf table = file.packageOf other := by
      cases package : file.package with
      | none => rw [packageOf, packageOf, classes package]
      | some fixed => simp [packageOf, package]
    rw [relativePath_eq, relativePath_eq, directories, directories, directory,
      fileName_inj.mpr simple]

/-- Mappers with different paths are written to different locations. -/
theorem apart_of_ne {output : String} (qualified : Java.isQualifiedName table.className = true)
    (otherQualified : Java.isQualifiedName other.className = true)
    (differ : Path.join output (file.relativePath table) ≠
      Path.join output (file.relativePath other)) :
    FileTree.Apart (Path.join output (file.relativePath table))
      (Path.join output (file.relativePath other)) := by
  obtain ⟨base, absolute, components⟩ := exists_components file output
  obtain ⟨begins, parts⟩ := components table qualified
  obtain ⟨otherBegins, otherParts⟩ := components other otherQualified
  exact FileTree.apart_of_components (begins.trans otherBegins.symm) parts otherParts
    ⟨List.concat_ne_nil _ _, List.concat_ne_nil _ _⟩
    ⟨not_mem_place qualified, not_mem_place otherQualified⟩
    fun same => differ ((path_inj output qualified otherQualified).mpr same)

/-- The paths of tables of different classes differ exactly if each class has its own package or their
simple names differ. -/
theorem nodup_paths_iff (output : String) {tables : List Table}
    (qualified : ∀ table ∈ tables, Java.isQualifiedName table.className = true)
    (distinct : (tables.map (·.className)).Nodup) :
    (tables.map fun table => Path.join output (file.relativePath table)).Nodup ↔
      file.package = none ∨ (tables.map (·.simpleClassName)).Nodup := by
  have separate : tables.Nodup := .of_map _ distinct
  rw [List.nodup_map_iff_inj_on separate] at distinct
  rw [List.nodup_map_iff_inj_on separate, List.nodup_map_iff_inj_on separate]
  have clash (table : Table) (member : table ∈ tables) (other : Table) (among : other ∈ tables) :
      Path.join output (file.relativePath table) = Path.join output (file.relativePath other) ↔
        table.simpleClassName = other.simpleClassName ∧
          (file.package = none → table.className = other.className) :=
    (path_inj output (qualified table member) (qualified other among)).trans
      (place_inj (qualified table member) (qualified other among))
  cases package : file.package with
  | none =>
    refine iff_of_true (fun table member other among same => ?_) (.inl rfl)
    obtain ⟨_, classes⟩ := (clash table member other among).mp same
    exact distinct table member other among (classes package)
  | some fixed =>
    simp only [reduceCtorEq, false_or]
    refine forall₂_congr fun table member => forall₂_congr fun other among => ?_
    rw [clash table member other among]
    simp [package]

end MapperFile

/-- The package of the base settings is that of the mapping. -/
theorem Mapping.baseScope_package {mapping : Mapping} {base : Scope}
    (based : mapping.baseScope = .ok base) : base.get .package = mapping.package := by
  obtain ⟨strategy, _, returned⟩ := bind_eq_ok.mp based
  cases returned
  cases mapping.package <;> simp [Scope.get_set_of_ne]

/-- Tables of a manifest that can be read are of classes with qualified names. -/
theorem Mapping.isQualifiedName_className {text file : String} {manifest : Manifest} {base : Scope}
    {tables : List Table} (parsed : Manifest.parse text file = .ok manifest)
    (built : (ofManifest manifest).tablesIn base manifest.classes = .ok tables) :
    ∀ table ∈ tables, Java.isQualifiedName table.className = true := by
  intro table member
  obtain ⟨decl, declared, _, _, made⟩ := exists_of_mem_tables built member
  rw [buildIn_className made]
  exact (Manifest.parse_names parsed declared).1

theorem Emits.path {mapping : Mapping} {base : Scope} {file : MapperFile} {output : String}
    {table : Table} {emitted : GeneratedFile} (emits : Emits mapping base file output table emitted) :
    Path.join output (file.relativePath table) = emitted.path := by
  obtain ⟨_, _, _, _, _, _, _, same⟩ := emits
  rw [same]

/-- What a plan is made of. -/
theorem GenerationPlan.ofManifest_eq_ok {manifest : Manifest} {options : GenerateOptions}
    {plan : GenerationPlan} (distinct : (manifest.classes.map (·.name)).Nodup)
    (planned : ofManifest manifest options = .ok plan) :
    ∃ base tablesClass tables, (Mapping.ofManifest manifest).baseScope = .ok base ∧
      (options.tablesClass <|> manifest.database.tablesClass) = some tablesClass ∧
      (Mapping.ofManifest manifest).tablesIn base manifest.classes = .ok tables ∧
      List.Forall₂ (Emits (.ofManifest manifest) base (options.mapperFile tablesClass base)
        options.output) (tables.filter (·.mappingEnabled)) plan.files := by
  obtain ⟨base, based, planned⟩ := bind_eq_ok.mp planned
  replace based := mapError_eq_ok.mp based
  split at planned
  · cases planned
  · rename_i tablesClass supplied
    obtain ⟨tables, bulk, planned⟩ := bind_eq_ok.mp planned
    obtain ⟨files, emitted, planned⟩ := bind_eq_ok.mp planned
    cases planned
    have built := (Mapping.tables_of_base based).symm.trans (mapError_eq_ok.mp bulk)
    obtain ⟨same, planned, emits⟩ := filesOf_emits based distinct
      (options.mapperFile tablesClass base) options.output tables
      fun table member => Mapping.exists_of_mem_tables built member
    cases emitted.symm.trans planned
    exact ⟨base, tablesClass, tables, based, supplied, built, emits⟩

namespace GenerateReport

/-- All files are written if the first one is and then the others are. -/
theorem writeFiles_cons_ok {file : GeneratedFile} {rest : List GeneratedFile} {tree after : FileTree}
    {outcomes : List (String × WriteOutcome)}
    (ran : (writeFiles FileTree.store (file :: rest)).run tree = (.ok outcomes, after)) :
    ∃ middle outcome others, (file.write FileTree.store).run tree = (.ok outcome, middle) ∧
      (writeFiles FileTree.store rest).run middle = (.ok others, after) := by
  simp only [writeFiles, StateT.run_bind] at ran
  cases written : (file.write FileTree.store).run tree with
  | mk result middle =>
    rw [written] at ran
    cases result with
    | error cause => cases ran
    | ok outcome =>
      change ((writeFiles FileTree.store rest).run middle).map
        (·.map ((file.path, outcome) :: ·)) id = _ at ran
      cases later : (writeFiles FileTree.store rest).run middle with
      | mk result last =>
        rw [later] at ran
        cases result with
        | error cause => cases ran
        | ok others =>
          cases ran
          exact ⟨middle, outcome, others, rfl, later⟩

/-- After a run that wrote all files, each holds its text unless a later one is at its location; files
elsewhere hold what they held. -/
theorem read_writeFiles {files : List GeneratedFile} {tree after : FileTree}
    {outcomes : List (String × WriteOutcome)}
    (ran : (writeFiles FileTree.store files).run tree = (.ok outcomes, after)) :
    (∀ other s, (∀ file ∈ files, FileTree.Apart file.path other) → tree.read other = some s →
        after.read other = some s) ∧
      ∀ before file later, files = before ++ file :: later →
        (∀ next ∈ later, FileTree.Apart next.path file.path) →
          after.read file.path = some file.render := by
  induction files generalizing tree outcomes with
  | nil =>
    cases ran
    exact ⟨fun _ _ _ held => held, fun before file later split => by simp at split⟩
  | cons first rest ih =>
    obtain ⟨middle, outcome, others, written, ran⟩ := writeFiles_cons_ok ran
    obtain ⟨own, elsewhere⟩ := GeneratedFile.write_ok written
    obtain ⟨kept, held⟩ := ih ran
    refine ⟨fun other s apart holds => ?_, fun before file later split apart => ?_⟩
    · obtain ⟨ofFirst, ofRest⟩ := List.forall_mem_cons.mp apart
      exact kept other s ofRest (elsewhere other s ofFirst holds)
    · cases before with
      | nil =>
        -- The first file itself: the others are written elsewhere.
        obtain ⟨rfl, rfl⟩ := List.cons.inj split
        exact kept first.path first.render apart own
      | cons _ before =>
        obtain ⟨_, rfl⟩ := List.cons.inj split
        exact held before file later rfl apart

/-- A run that succeeds has written the files of its plan. -/
theorem run_ofManifest_ok {manifest : Manifest} {options : GenerateOptions}
    {plan : GenerationPlan} {tree after : FileTree} {report : GenerateReport}
    (planned : GenerationPlan.ofManifest manifest options = .ok plan)
    (writes : options.dryRun = false)
    (ran : (ofManifest FileTree.store manifest options).run tree = (.ok report, after)) :
    ∃ outcomes, (writeFiles FileTree.store plan.files).run tree = (.ok outcomes, after) := by
  simp only [ofManifest, planned, ofPlan, writes, Bool.false_eq_true, if_false, StateT.run_bind] at ran
  cases written : (writeFiles FileTree.store plan.files).run tree with
  | mk result last =>
    rw [written] at ran
    cases result with
    | error cause => cases ran
    | ok outcomes =>
      cases ran
      exact ⟨outcomes, rfl⟩

end GenerateReport

/-- A run over a valid manifest plans one mapper for each table whose mapping is enabled. The paths
differ exactly if the mappers have no fixed package or the classes differ in simple name. A run that
succeeds leaves at each path what was planned last for it. -/
theorem mapper_files (text file : String) (manifest : Manifest) (options : GenerateOptions)
    (plan : GenerationPlan) (parsed : Manifest.parse text file = .ok manifest)
    (planned : GenerationPlan.ofManifest manifest options = .ok plan) :
    ∃ base tablesClass tables, (Mapping.ofManifest manifest).baseScope = .ok base ∧
      (options.tablesClass <|> manifest.database.tablesClass) = some tablesClass ∧
      (Mapping.ofManifest manifest).tables = .ok tables ∧
      List.Forall₂ (Emits (.ofManifest manifest) base (options.mapperFile tablesClass base)
        options.output) (tables.filter (·.mappingEnabled)) plan.files ∧
      ((plan.files.map (·.path)).Nodup ↔
        (options.package <|> manifest.database.package) = none ∨
          ((tables.filter (·.mappingEnabled)).map (·.simpleClassName)).Nodup) ∧
      ∀ tree report after, options.dryRun = false →
        (GenerateReport.ofManifest FileTree.store manifest options).run tree = (.ok report, after) →
        ∀ before emitted later, plan.files = before ++ emitted :: later →
          emitted.path ∉ later.map (·.path) → after.read emitted.path = some emitted.render := by
  obtain ⟨names, _⟩ := Manifest.parse_distinct parsed
  obtain ⟨base, tablesClass, tables, based, supplied, built, emits⟩ :=
    GenerationPlan.ofManifest_eq_ok names planned
  have package : (options.mapperFile tablesClass base).package =
      (options.package <|> manifest.database.package) := by
    rw [GenerateOptions.mapperFile, Mapping.baseScope_package based]
    rfl
  have paths : (tables.filter (·.mappingEnabled)).map (fun table => Path.join options.output
      ((options.mapperFile tablesClass base).relativePath table)) = plan.files.map (·.path) := by
    rw [← List.forall₂_eq_eq_eq, List.forall₂_map_left_iff, List.forall₂_map_right_iff]
    exact emits.imp fun _ _ emits => emits.path
  have qualified := Mapping.isQualifiedName_className parsed built
  have distinct := names.sublist (Mapping.classNames_sublist built)
  refine ⟨base, tablesClass, tables, based, supplied, (Mapping.tables_of_base based).trans built,
    emits, ?_, ?_⟩
  · rw [← paths, ← package]
    exact MapperFile.nodup_paths_iff options.output
      (fun table member => qualified table (List.mem_of_mem_filter member))
      (distinct.sublist (List.filter_sublist.map _))
  · intro tree report after writes ran before emitted later split last
    obtain ⟨outcomes, ran⟩ := GenerateReport.run_ofManifest_ok planned writes ran
    refine (GenerateReport.read_writeFiles ran).2 before emitted later split fun next inLater => ?_
    have inPlan : emitted ∈ plan.files ∧ next ∈ plan.files := by simp [split, inLater]
    obtain ⟨table, member, own⟩ := exists_of_forall₂ emits inPlan.1
    obtain ⟨other, among, others⟩ := exists_of_forall₂ emits inPlan.2
    rw [← own.path, ← others.path]
    refine MapperFile.apart_of_ne (qualified other (List.mem_of_mem_filter among))
      (qualified table (List.mem_of_mem_filter member)) fun same => last ?_
    exact List.mem_map.mpr ⟨next, inLater, by rw [← own.path, ← others.path, same]⟩

/-- Orders of two regions, each in a package of its own, and notes without mapper. -/
def regionText : String := "[[classes]]
name='north.Order'
table=[]
[[classes]]
name='south.Order'
table=[]
fields=[['id','long']]
[[classes]]
name='south.Note'
table=['notes',false,false]
"

def regionManifest : Manifest where
  classes := [
    { name := "north.Order", table := some {} },
    { name := "south.Order", table := some {}, fields := [{ name := "id", type := "long" }] },
    { name := "south.Note", table := some { name := some "notes", mapping := false } }]

def regionOptions : GenerateOptions where
  output := "src"
  tablesClass := some "demo.Tables"

/-- A disk with a working directory and nothing else. -/
def buildDisk : FileTree where
  workingDirectory := ["home", "build"]

set_option maxRecDepth 2000 in
/-- A run writes the mappers of both orders and leaves both, be it below the working directory, beside
it or anywhere on the disk. -/
theorem regionManifest_leaves_both :
    Manifest.parse regionText "regions.toml" = .ok regionManifest ∧
      ∀ output ∈ ["src", "../maps", "/srv/maps"], ∃ plan report after,
        GenerationPlan.ofManifest regionManifest { regionOptions with output } = .ok plan ∧
        (GenerateReport.ofManifest FileTree.store regionManifest { regionOptions with output }).run
          buildDisk = (.ok report, after) ∧
        plan.files.map (·.path) =
          [output ++ "/north/OrderMapper.java", output ++ "/south/OrderMapper.java"] ∧
        ∀ emitted ∈ plan.files, after.read emitted.path = some emitted.render := by
  have parsed : Manifest.parse regionText "regions.toml" = .ok regionManifest :=
    Manifest.parse_ofList (by decide +kernel) (by decide +kernel)
  have plans : ∀ output ∈ ["src", "../maps", "/srv/maps"],
      (GenerationPlan.ofManifest regionManifest { regionOptions with output }).toOption.any (fun plan =>
        plan.files.map (·.path) ==
          [output ++ "/north/OrderMapper.java", output ++ "/south/OrderMapper.java"]) = true := by
    decide +kernel
  have runs : ∀ output ∈ ["src", "../maps", "/srv/maps"],
      ((GenerateReport.ofManifest FileTree.store regionManifest { regionOptions with output }).run
        buildDisk).1.isOk = true := by
    decide +kernel
  refine ⟨parsed, fun output listed => ?_⟩
  obtain ⟨plan, planned, paths⟩ := exists_ok_and (plans output listed)
  have succeeds := runs output listed
  obtain ⟨⟨result, after⟩, ran⟩ : ∃ ended, (GenerateReport.ofManifest FileTree.store regionManifest
      { regionOptions with output }).run buildDisk = ended := ⟨_, rfl⟩
  rw [ran] at succeeds
  obtain ⟨report, rfl⟩ := exists_eq_ok succeeds
  obtain ⟨_, _, _, _, _, _, _, apart, left⟩ :=
    mapper_files regionText "regions.toml" regionManifest _ plan parsed planned
  refine ⟨plan, report, after, planned, ran, beq_iff_eq.mp paths, fun emitted member => ?_⟩
  obtain ⟨before, later, split⟩ := List.append_of_mem member
  refine left buildDisk report after rfl ran before emitted later split fun again => ?_
  have distinct := apart.mpr (.inl rfl)
  rw [split, List.map_append, List.map_cons] at distinct
  exact (List.nodup_cons.mp (List.nodup_append.mp distinct).2.1).1 again

/-- The orders of both regions again, with one package for all mappers. -/
def mergedText : String := "[database]
package='merged'
[[classes]]
name='north.Order'
table=[]
[[classes]]
name='south.Order'
table=['orders']
"

def mergedManifest : Manifest where
  database := { package := some "merged" }
  classes := [
    { name := "north.Order", table := some {} },
    { name := "south.Order", table := some { name := some "orders" } }]

/-- Both mappers have one path. -/
theorem mergedManifest_shares_path :
    Manifest.parse mergedText "merged.toml" = .ok mergedManifest ∧
      ∃ plan, GenerationPlan.ofManifest mergedManifest regionOptions = .ok plan ∧
        plan.files.map (·.path) = ["src/merged/OrderMapper.java", "src/merged/OrderMapper.java"] ∧
        ¬ (plan.files.map (·.path)).Nodup := by
  have parsed : Manifest.parse mergedText "merged.toml" = .ok mergedManifest :=
    Manifest.parse_ofList (by decide +kernel) (by decide +kernel)
  obtain ⟨plan, planned, listed⟩ := exists_ok_and
    (show (GenerationPlan.ofManifest mergedManifest regionOptions).toOption.any (fun plan =>
        plan.files.map (·.path) == ["src/merged/OrderMapper.java", "src/merged/OrderMapper.java"]) =
          true by
      decide +kernel)
  have paths := beq_iff_eq.mp listed
  refine ⟨parsed, plan, planned, paths, fun distinct => ?_⟩
  rw [paths] at distinct
  exact (List.nodup_cons.mp distinct).1 List.mem_cons_self

end EntityMapper
