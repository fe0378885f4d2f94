import EntityMapper.Proofs.Extraction.Build
import EntityMapper.Proofs.Extraction.Sources

/-!
# Which override decides

Every option of a column comes from the first of its sources that sets it: the entry of the
table's class for the path of the column, that of the inheritance level, those of the embedded
fields around, outermost first, and what the field itself declares (`column_follows`). A name
that an entry sets stands alone; any other follows what the embedded fields contribute.
-/
namespace EntityMapper

/-- All sources for the options of a leaf path's column, strongest first. -/
def LeafPath.sources (root level : ClassDeclaration) (leaf : LeafPath) :
    List (Option ColumnOptions) :=
  leaf.entries root level ++ [leaf.field.column]

/-- The name that a strategy gives the column of a leaf path. -/
def LeafPath.columnName (strategy : NamingStrategy) (root level : ClassDeclaration)
    (leaf : LeafPath) : String :=
  match firstSet (·.name) (leaf.entries root level) with
  | some name => strategy.resolveOne name
  | none =>
    strategy.resolve (columnFragments root level [] leaf.around ++
      [(leaf.field.column.bind (·.name)).getD leaf.field.name])

namespace ColumnFrame

/-- The column is that of the leaf path, and every choice in it follows the sources. -/
structure Follows (frame : ColumnFrame) (root level : ClassDeclaration) (leaf : LeafPath)
    (column : Column) : Prop where
  stores : column.Stores leaf
  name : ∃ strategy, frame.strategyFor (.firstOf (leaf.sources root level)) = .ok strategy ∧
    column.name = leaf.columnName strategy root level
  converter : frame.mapping.converters.resolve frame.mapping.metadata
    (ColumnOptions.firstOf (leaf.sources root level)).converter
    (frame.mapping.fieldType leaf.field.type) = .ok column.converter
  sqlType : frame.sqlType (ColumnOptions.firstOf (leaf.sources root level)).sqlType
    column.converter (frame.mapping.fieldType leaf.field.type) = .ok column.dataType.sqlType

/-- The name of a visited leaf is decided by its sources. -/
theorem columnName_eq (strategy : NamingStrategy) {level root : ClassDeclaration} {leaf : LeafPath}
    {path : FieldPath}
    (shows : Visit.ShowsLeaf (levelFrame level root) leaf
      (.leaf path ((levelFrame level root).overridesFor leaf))) :
    columnName strategy path ((levelFrame level root).overridesFor leaf) =
      leaf.columnName strategy root level := by
  obtain ⟨parents, visited, _⟩ := shows
  cases visited
  have fragments := enclosingFragments_eq_columnFragments root level [] leaf.around
  rw [enclosingLayers, List.append_nil] at fragments
  rw [columnName, LeafPath.columnName, bind_overridesFor (·.name) (fun _ _ => rfl), ← fragments]
  rfl

theorem BuildsLeaf.follows {frame : ColumnFrame} {level root : ClassDeclaration} {leaf : LeafPath}
    {column : Column} (builds : frame.BuildsLeaf (levelFrame level root) leaf column) :
    frame.Follows root level leaf column := by
  have stores := builds.stores
  obtain ⟨path, shows, built⟩ := builds
  obtain ⟨strategy, converter, sql, named, converts, typed, rfl⟩ := build_eq_ok.mp built
  have same : path.field = leaf.field := by
    obtain ⟨parents, visited, _⟩ := shows
    cases visited
    rfl
  rw [same, optionsFor_eq_firstOf] at named converts typed
  exact ⟨stores, ⟨strategy, named, columnName_eq strategy shows⟩, converts, typed⟩

end ColumnFrame

/-- Every column of a table was reached at a level of its class and follows the sources there. A
column whose sources name no strategy takes that of the table. -/
theorem column_follows (mapping : Mapping) (decl : ClassDeclaration) (options : TableOptions)
    (parent : Scope) (table : Table) (built : mapping.buildIn decl options parent = .ok table) :
    ∃ placed, mapping.tableScope decl options parent = .ok placed ∧
      mapping.strategyIn parent options.strategy = .ok placed.strategy ∧
      ∀ column ∈ table.columns, ∃ level ∈ lineage mapping.metadata decl options.inheritance,
        ∃ leaf, LeadsTo mapping.metadata level.fields leaf ∧
          (mapping.columnFrame parent placed).Follows decl level leaf column := by
  obtain ⟨placed, columns, found, levels, rfl⟩ := Mapping.buildIn_eq_ok.mp built
  refine ⟨placed, found, mapping.tableScope_strategy found, fun column member => ?_⟩
  have unsorted : column ∈ columns := (List.mergeSort_perm _ _).mem_iff.mp member
  rcases ColumnFrame.mem_ofLevels levels unsorted with none | ⟨visits, inLevels, own, made, inOwn⟩
  · cases none
  · obtain ⟨level, inLineage, before, after, walked⟩ := walkLevels_walked inLevels
    obtain ⟨visited, _⟩ := ColumnFrame.ofLevel_eq_ok made
    obtain ⟨leaves, reached, shown, _⟩ := walked.leaves (ColumnFrame.ofVisits_faultless visited)
    obtain ⟨leaf, kept, builds⟩ :=
      exists_of_forall₂ (ColumnFrame.ofVisits_leaves shown visited) inOwn
    exact ⟨level, inLineage, leaf, (reached leaf).mp (List.mem_of_mem_filter kept), builds.follows⟩

/-- A detour takes the stop of its route. The detour names the longitude there, the route settles
its type, and the stop names its place. -/
def detourStop : FieldDeclaration where
  name := "origin"
  type := "trip.Stop"
  embedded := some [("spot", { name := some "place" }), ("spot.x", { sqlType := some "real" })]

def detourSpot : FieldDeclaration where
  name := "spot"
  type := "trip.Spot"
  embedded := some [("x", { sqlType := some "varchar" })]

def detourRoute : ClassDeclaration where
  name := "trip.Route"
  fields := [detourStop]
  overrides := [("origin.spot.x", { name := some "x", sqlType := some "decimal" })]

def detour : ClassDeclaration where
  name := "trip.Detour"
  superclass := some "trip.Route"
  overrides := [("origin.spot.x", { name := some "startX" })]

def detourClasses : Metadata where
  classes := [detour, detourRoute,
    { name := "trip.Stop", kind := .embeddable, fields := [detourSpot] },
    { name := "trip.Spot", kind := .embeddable,
      fields := [{ name := "x", type := "double" }, { name := "y", type := "double" }] }]
  converters := []

def detourOptions : TableOptions :=
  { inheritance := true, strategy := some "upper_snake_case" }

/-- The columns of the detour follow the detour, its route and the embedded fields between. -/
theorem detour_column_follows :
    ∃ table, (Mapping.ofMetadata detourClasses).buildIn detour detourOptions {} = .ok table ∧
      ∃ placed, (Mapping.ofMetadata detourClasses).tableScope detour detourOptions {} =
          .ok placed ∧
        ∀ column ∈ table.columns, ∃ level ∈ lineage detourClasses detour true, ∃ leaf,
          LeadsTo detourClasses level.fields leaf ∧
            ((Mapping.ofMetadata detourClasses).columnFrame {} placed).Follows detour level leaf
              column := by
  obtain ⟨table, built⟩ := exists_eq_ok
    (show ((Mapping.ofMetadata detourClasses).buildIn detour detourOptions {}).isOk = true by
      decide +kernel)
  obtain ⟨placed, found, _, follows⟩ := column_follows (.ofMetadata detourClasses) detour
    detourOptions {} table built
  exact ⟨table, built, placed, found, follows⟩

example :
    let leaf : LeafPath := ⟨[detourStop, detourSpot], { name := "x", type := "double" }⟩
    leaf.columnName LetterCase.upper.snake detour detourRoute = "START_X" ∧
      (ColumnOptions.firstOf (leaf.sources detour detourRoute)).sqlType = some "decimal" := by
  decide +kernel

end EntityMapper
