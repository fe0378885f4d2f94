import EntityMapper.Manifest.Reader
import EntityMapper.Proofs.Extraction.Bulk
import EntityMapper.Proofs.Extraction.Columns
import EntityMapper.Proofs.Extraction.Origins
import EntityMapper.Proofs.Naming.Constants

/-!
# Constants of columns

The columns of a table differ in name, but their constants are names once more normalised. Two
constants fall together only where the names agree in upper case but for `_`; for names of one case,
exactly where they agree in upper case; and for ASCII names, only where the options of one column
ask for another strategy than the table's (`column_constants`).
-/
namespace EntityMapper

/-- What the standard catalog makes is a built-in strategy. -/
theorem StrategyCatalog.make_standard {name : String} {strategy : NamingStrategy}
    (made : standard.make name = .ok strategy) : ∃ case : LetterCase, strategy = case.snake := by
  have entries : standard.factories = [("default", .ok LetterCase.lower.snake),
      ("snake_case", .ok LetterCase.lower.snake),
      ("upper_snake_case", .ok LetterCase.upper.snake)] := rfl
  rw [make] at made
  split at made
  · cases made
  · cases made
  · rename_i recipe found
    cases made
    have member := Entries.mem_of_get? found
    rw [entries] at member
    simp only [List.mem_cons, Prod.mk.injEq, Except.ok.injEq, List.not_mem_nil, or_false] at member
    rcases member with ⟨_, rfl⟩ | ⟨_, rfl⟩ | ⟨_, rfl⟩
    exacts [⟨.lower, rfl⟩, ⟨.lower, rfl⟩, ⟨.upper, rfl⟩]

namespace Mapping

/-- Over the standard catalog, the base settings hold a built-in strategy. -/
theorem baseScope_standard {mapping : Mapping} (standard : mapping.strategies = .standard)
    {base : Scope} (based : mapping.baseScope = .ok base) :
    ∃ case : LetterCase, base.get .strategy = some case.snake := by
  simp only [baseScope, standard, bind_eq_ok, pure_eq_ok] at based
  obtain ⟨strategy, resolved, rfl⟩ := based
  obtain ⟨case, rfl⟩ : ∃ case : LetterCase, strategy = case.snake := by
    cases named : mapping.strategyName with
    | none =>
      rw [named] at resolved
      cases resolved
      exact ⟨.lower, rfl⟩
    | some name =>
      rw [named] at resolved
      exact StrategyCatalog.make_standard resolved
  refine ⟨case, ?_⟩
  cases mapping.package <;> simp [Scope.get_set_of_ne]

/-- Over the standard catalog, a table has a built-in strategy. -/
theorem tableScope_standard {mapping : Mapping} (standard : mapping.strategies = .standard)
    {base : Scope} (based : mapping.baseScope = .ok base) {decl : ClassDeclaration}
    {options : TableOptions} {placed : TableScope}
    (found : mapping.tableScope decl options base = .ok placed) :
    ∃ case : LetterCase, placed.strategy = case.snake := by
  have named := tableScope_strategy found
  cases asked : options.strategy with
  | some name =>
    rw [asked, strategyIn, standard] at named
    exact StrategyCatalog.make_standard named
  | none =>
    obtain ⟨case, held⟩ := baseScope_standard standard based
    rw [asked, strategyIn, held] at named
    exact ⟨case, (Except.ok.inj named).symm⟩

end Mapping

/-- Over the standard catalog, the columns of a table with a built-in strategy have one too. -/
theorem ColumnFrame.strategyFor_standard {frame : ColumnFrame}
    (standard : frame.mapping.strategies = .standard) {case : LetterCase}
    (ofTable : frame.strategy = case.snake) {options : ColumnOptions} {strategy : NamingStrategy}
    (chosen : frame.strategyFor options = .ok strategy) :
    ∃ own : LetterCase, strategy = own.snake := by
  cases asked : options.strategy with
  | some name =>
    rw [strategyFor, asked, standard] at chosen
    exact StrategyCatalog.make_standard chosen
  | none =>
    rw [strategyFor, asked] at chosen
    exact ⟨case, (Except.ok.inj chosen).symm.trans ofTable⟩

/-- A name is what the strategy makes of some fragments. -/
theorem ColumnFrame.exists_columnName (strategy : NamingStrategy) (path : FieldPath)
    (overrides : Option ColumnOptions) :
    ∃ fragments, columnName strategy path overrides = strategy.resolve fragments := by
  rw [columnName]
  split
  exacts [⟨_, rfl⟩, ⟨_, rfl⟩]

namespace TableWalk

variable {mapping : Mapping} {decl : ClassDeclaration} {options : TableOptions} {parent : Scope}

/-- Column options under which the column is built ask for a strategy. -/
def AsksStrategy (walk : TableWalk mapping decl options parent) (column : Column) : Prop :=
  ∃ level seen path overrides, (level, seen) ∈ walk.levels.zip walk.visits ∧
    .leaf path overrides ∈ seen ∧ walk.frame.build path overrides = .ok column ∧
    (ColumnFrame.optionsFor path.field overrides).strategy.isSome = true

/-- A built-in strategy names each column, that of the table unless the column asks for one. -/
theorem Origin.exists_case {walk : TableWalk mapping decl options parent} {level : ClassDeclaration}
    {path : FieldPath} {column : Column} (origin : walk.Origin level path column)
    (standard : mapping.strategies = .standard) {case : LetterCase}
    (ofTable : walk.placed.strategy = case.snake) :
    ∃ own : LetterCase, (own ≠ case → walk.AsksStrategy column) ∧
      ∃ fragments, column.name = own.snake.resolve fragments := by
  obtain ⟨seen, overrides, paired, visited, built⟩ := origin
  obtain ⟨strategy, converter, sql, named, _, _, rfl⟩ := ColumnFrame.build_eq_ok.mp built
  cases asked : (ColumnFrame.optionsFor path.field overrides).strategy with
  | some name =>
    rw [ColumnFrame.strategyFor, asked] at named
    obtain ⟨own, rfl⟩ := StrategyCatalog.make_standard (standard ▸ named)
    exact ⟨own, fun _ => ⟨level, seen, path, overrides, paired, visited, built, by simp [asked]⟩,
      ColumnFrame.exists_columnName own.snake path overrides⟩
  | none =>
    rw [ColumnFrame.strategyFor, asked] at named
    have same : case.snake = strategy := ofTable.symm.trans (Except.ok.inj named)
    exact ⟨case, fun differs => absurd rfl differs,
      same ▸ ColumnFrame.exists_columnName case.snake path overrides⟩

end TableWalk

/-- Two columns of a table have one constant only where their names agree in upper case but for
`_`; where each name is of one case, exactly where they agree in upper case; and where both are
ASCII, only if one has no capitals, the other no small letters, and the options of one of them ask
for a naming strategy. -/
theorem column_constants (manifest : Manifest) (tables : List Table) (table : Table)
    (built : (Mapping.ofManifest manifest).tables = .ok tables) (member : table ∈ tables) :
    ∃ decl ∈ manifest.classes, ∃ options base,
      ∃ walk : TableWalk (.ofManifest manifest) decl options base,
        (Mapping.ofManifest manifest).buildIn decl options base = .ok table ∧
        ∀ a ∈ table.columns, ∀ b ∈ table.columns, a ≠ b →
          (a.constant = b.constant →
            (Text.upper a.name).toList.filter (· ≠ '_') =
              (Text.upper b.name).toList.filter (· ≠ '_')) ∧
          (∀ caseA caseB : LetterCase, caseA.Writes a.name → caseB.Writes b.name →
            (a.constant = b.constant ↔ Text.upper a.name = Text.upper b.name)) ∧
          (Text.IsAscii a.name → Text.IsAscii b.name → a.constant = b.constant →
            (Text.NoCapitals a.name ∧ Text.NoSmall b.name ∨
              Text.NoSmall a.name ∧ Text.NoCapitals b.name) ∧
            (walk.AsksStrategy a ∨ walk.AsksStrategy b)) := by
  obtain ⟨base, based, built⟩ := bind_eq_ok.mp built
  obtain ⟨decl, declared, options, _, made⟩ := Mapping.exists_of_mem_tables built member
  obtain ⟨walk, origins⟩ := Mapping.buildIn_origins made
  refine ⟨decl, declared, options, base, walk, made, fun a ofA b ofB differ =>
    ⟨fun same => ?_, fun caseA caseB writtenA writtenB => ?_, fun asciiA asciiB same => ?_⟩⟩
  · rw [← filter_constantName, ← filter_constantName]
    exact congrArg (fun constant : String => constant.toList.filter (· ≠ '_')) same
  · rw [Column.constant, Column.constant, constantName_eq_upper writtenA,
      constantName_eq_upper writtenB]
  · obtain ⟨case, ofTable⟩ := Mapping.tableScope_standard rfl based walk.found
    obtain ⟨levelA, pathA, originA⟩ := origins a ofA
    obtain ⟨levelB, pathB, originB⟩ := origins b ofB
    obtain ⟨caseA, asksA, fragmentsA, namedA⟩ := originA.exists_case rfl ofTable
    obtain ⟨caseB, asksB, fragmentsB, namedB⟩ := originB.exists_case rfl ofTable
    have writtenA : caseA.Writes a.name :=
      namedA ▸ LetterCase.writes_snake caseA fragmentsA (namedA ▸ asciiA)
    have writtenB : caseB.Writes b.name :=
      namedB ▸ LetterCase.writes_snake caseB fragmentsB (namedB ▸ asciiB)
    have distinct : (table.columns.map (·.name)).Nodup :=
      List.pairwise_map.mpr ((Mapping.buildIn_ascending made).imp String.ne_of_lt)
    have cases : caseA ≠ caseB := by
      rintro rfl
      have names := constantName_injective writtenA writtenB asciiA asciiB same
      exact differ (List.inj_on_of_nodup_map distinct ofA ofB names)
    refine ⟨?_, ?_⟩
    · cases caseA <;> cases caseB
      all_goals first
        | exact absurd rfl cases
        | exact .inl ⟨writtenA, writtenB⟩
        | exact .inr ⟨writtenA, writtenB⟩
    · by_cases own : caseA = case
      · exact .inr (asksB fun equal => cases (own.trans equal.symm))
      · exact .inl (asksA own)

/-- A street that keeps its old number under an upper-case name, and its name with and without
sharp s. -/
def streetText : String := "[[classes]]
name='Street'
table=[]
fields=[['old','long'],['id','long'],['strasse','long'],['straße','long']]
[classes.overrides.old]
name='id'
naming_strategy='upper_snake_case'
"

def streetManifest : Manifest where
  classes := [
    { name := "Street"
      table := some {}
      fields := [
        { name := "old", type := "long" }, { name := "id", type := "long" },
        { name := "strasse", type := "long" }, { name := "straße", type := "long" }]
      overrides := [("old", { name := some "id", strategy := some "upper_snake_case" })] }]

theorem exists_streetTable :
    ∃ table, (Mapping.ofManifest streetManifest).tables = .ok [table] ∧
      table.columns.map (·.name) = ["ID", "id", "strasse", "straße"] := by
  obtain ⟨columns, made, listed⟩ := exists_ok_and
    (show ((Mapping.ofManifest streetManifest).columnsOf streetManifest.classes[0] {}).toOption.any
        (fun columns => columns.map (·.name) == ["ID", "id", "strasse", "straße"]) = true by
      decide +kernel)
  have names := beq_iff_eq.mp listed
  have ascending : columns.Pairwise fun a b => a.name ≤ b.name :=
    List.pairwise_map.mp (names ▸ by decide +kernel)
  have unbuildable : ∀ other ∈ ([] : List ClassDeclaration), other.buildable? = none := by simp
  obtain ⟨table, built, rfl, _⟩ :=
    Mapping.tables_of_columnsOf rfl rfl unbuildable made ascending
  exact ⟨table, built, names⟩

/-- The names of two columns of the street with one constant agree in upper case but for `_`. -/
theorem streetManifest_constants :
    ∃ table, (Mapping.ofManifest streetManifest).tables = .ok [table] ∧
      ∀ a ∈ table.columns, ∀ b ∈ table.columns, a ≠ b → a.constant = b.constant →
        (Text.upper a.name).toList.filter (· ≠ '_') =
          (Text.upper b.name).toList.filter (· ≠ '_') := by
  obtain ⟨table, built, _⟩ := exists_streetTable
  obtain ⟨_, _, _, _, _, _, apart⟩ :=
    column_constants streetManifest [table] table built List.mem_cons_self
  exact ⟨table, built, fun a ofA b ofB differ => (apart a ofA b ofB differ).1⟩

/-- The old number and the new one have one constant, and so have the names with and without sharp
s. -/
theorem streetManifest_shares_constants :
    Manifest.parse streetText "street.toml" = .ok streetManifest ∧
      ∃ table, (Mapping.ofManifest streetManifest).tables = .ok [table] ∧
        (∃ a ∈ table.columns, ∃ b ∈ table.columns,
          a.name = "ID" ∧ b.name = "id" ∧ a.constant = b.constant) ∧
        ∃ a ∈ table.columns, ∃ b ∈ table.columns,
          a.name = "strasse" ∧ b.name = "straße" ∧ a.constant = b.constant := by
  obtain ⟨table, built, names⟩ := exists_streetTable
  have named (name : String) (listed : name ∈ ["ID", "id", "strasse", "straße"]) :
      ∃ column ∈ table.columns, column.name = name :=
    List.mem_map.mp (names ▸ listed)
  have clash {first second : String} (ofFirst : first ∈ ["ID", "id", "strasse", "straße"])
      (ofSecond : second ∈ ["ID", "id", "strasse", "straße"])
      (same : constantName first = constantName second) :
      ∃ a ∈ table.columns, ∃ b ∈ table.columns,
        a.name = first ∧ b.name = second ∧ a.constant = b.constant := by
    obtain ⟨a, inA, rfl⟩ := named first ofFirst
    obtain ⟨b, inB, rfl⟩ := named second ofSecond
    exact ⟨a, inA, b, inB, rfl, rfl, same⟩
  exact ⟨toOption_eq_some.mp (by decide +kernel), table, built,
    clash (by decide) (by decide) (by decide +kernel),
    clash (by decide) (by decide) (by decide +kernel)⟩

end EntityMapper
