import EntityMapper.Report.Inspect
import EntityMapper.Proofs.Extraction.Union
import EntityMapper.Proofs.Table.Lookup
import EntityMapper.Proofs.Text.ByteOrder

/-!
# The columns of a built table

Columns differ in name within a level, since a level with a repeated name fails, and across levels,
since a name that is there already is passed over. So the columns of a table strictly ascend. Its
look-up by name is exact then, and inspecting it gives each column one type reference
(`built_columns_ascend`).
-/
namespace EntityMapper

/-- What a column says of the table it is in. -/
structure Column.BelongsTo (column : Column) (table : Table) (dialect : String) : Prop where
  named : column.table = table.name
  placed : column.dataType.schema = table.schema.name
  typed : column.dataType.dialect = dialect

/-- Every column of a level says what its frame says. -/
theorem ColumnFrame.ofLevel_carries {frame : ColumnFrame} {visits : List Visit}
    {columns : List Column} (built : frame.ofLevel visits = .ok columns) {column : Column}
    (member : column ∈ columns) :
    column.table = frame.table ∧ column.dataType.schema = frame.schema ∧
      column.dataType.dialect = frame.dialect := by
  obtain ⟨made, _⟩ := ofLevel_eq_ok built
  obtain ⟨path, overrides, _, single⟩ := mem_ofVisits made member
  obtain ⟨_, _, _, _, _, _, rfl⟩ := build_eq_ok.mp single
  exact ⟨rfl, rfl, rfl⟩

/-- Every column of a table belongs to it. -/
theorem Mapping.buildIn_belongs {mapping : Mapping} {decl : ClassDeclaration}
    {options : TableOptions} {parent : Scope} {table : Table}
    (built : mapping.buildIn decl options parent = .ok table) {column : Column}
    (member : column ∈ table.columns) : column.BelongsTo table (mapping.dialectIn parent) := by
  obtain ⟨placed, columns, found, levels, rfl⟩ := buildIn_eq_ok.mp built
  rcases ColumnFrame.mem_ofLevels levels (Table.mem_ofColumns.mp member) with none | ⟨visits, _, level, made, inLevel⟩
  · cases none
  · obtain ⟨named, inSchema, typed⟩ := ColumnFrame.ofLevel_carries made inLevel
    exact ⟨named, inSchema, typed⟩

/-- The columns of a built table strictly ascend by name. -/
theorem Mapping.buildIn_ascending {mapping : Mapping} {decl : ClassDeclaration}
    {options : TableOptions} {parent : Scope} {table : Table}
    (built : mapping.buildIn decl options parent = .ok table) :
    table.columns.Pairwise (fun a b => a.name < b.name) := by
  obtain ⟨placed, columns, found, levels, rfl⟩ := buildIn_eq_ok.mp built
  exact Table.ofColumns_ascending (ColumnFrame.ofLevels_nodup levels) _ _ _ _

/-- Columns that strictly ascend have one reference each, in their order. -/
theorem InspectedTable.typeReferences_ofTable (library : QueryLibrary) {table : Table}
    (ascending : table.columns.Pairwise (fun a b => a.name < b.name)) :
    (InspectedTable.ofTable library table).typeReferences =
      table.columns.map fun column => (column.name, column.dataType.reference library) :=
  Ascending.ofList_reverse (List.pairwise_map.mpr ascending)

/-- The columns of a table that is built strictly ascend by the bytes of their names, so that each
name finds its column and has one type reference. They split into embedded and direct ones, and all
carry the name and the schema of the table and the dialect they are built for. -/
theorem built_columns_ascend (mapping : Mapping) (decl : ClassDeclaration) (options : TableOptions)
    (parent : Scope) (table : Table) (built : mapping.buildIn decl options parent = .ok table) :
    table.columns.Pairwise (fun a b => Text.utf8 a.name < Text.utf8 b.name) ∧
      (∀ name column,
        table.column? name = some column ↔ column ∈ table.columns ∧ column.name = name) ∧
      ((table.embeddedColumns ++ table.directColumns).Perm table.columns ∧
        table.embeddedColumns.Sublist table.columns ∧ table.directColumns.Sublist table.columns ∧
        (∀ column ∈ table.embeddedColumns, column.parents ≠ []) ∧
        ∀ column ∈ table.directColumns, column.parents = []) ∧
      (∃ placed, mapping.tableScope decl options parent = .ok placed ∧ table.name = placed.name ∧
        table.schema = placed.schema ∧
        ∀ column ∈ table.columns, column.BelongsTo table (mapping.dialectIn parent)) ∧
      ∀ library, (InspectedTable.ofTable library table).typeReferences =
        table.columns.map fun column => (column.name, column.dataType.reference library) := by
  have ascending := Mapping.buildIn_ascending built
  have distinct : (table.columns.map (·.name)).Nodup :=
    List.pairwise_map.mpr (ascending.imp String.ne_of_lt)
  refine ⟨ascending.imp Text.utf8_lt, Table.column?_eq_some_iff distinct, ?_, ?_,
    fun library => InspectedTable.typeReferences_ofTable library ascending⟩
  · refine ⟨table.embedded_direct_perm, List.filter_sublist, List.filter_sublist,
      fun column member => ?_, fun column member => ?_⟩
    · simpa [Column.isEmbedded] using List.of_mem_filter member
    · simpa [Column.isEmbedded] using List.of_mem_filter member
  · obtain ⟨placed, columns, found, _, same⟩ := Mapping.buildIn_eq_ok.mp built
    exact ⟨placed, found, by rw [same]; rfl, by rw [same]; rfl,
      fun column member => Mapping.buildIn_belongs built member⟩

/-- A store at a point. -/
def storeClass : ClassDeclaration where
  name := "shop.Store"
  fields := [
    { name := "id", type := "long" },
    { name := "site", type := "shop.Point", embedded := some [] }]

def storeClasses : Metadata where
  classes := [storeClass,
    { name := "shop.Point"
      kind := .embeddable
      fields := [{ name := "lng", type := "double" }, { name := "lat", type := "double" }] }]
  converters := []

/-- The columns of the store ascend, and each is found by its name. -/
theorem storeClass_columns_ascend :
    ∃ table, (Mapping.ofMetadata storeClasses).buildIn storeClass {} {} = .ok table ∧
      table.columns.Pairwise (fun a b => Text.utf8 a.name < Text.utf8 b.name) ∧
      ∀ name column,
        table.column? name = some column ↔ column ∈ table.columns ∧ column.name = name := by
  obtain ⟨table, built⟩ := exists_eq_ok
    (show ((Mapping.ofMetadata storeClasses).buildIn storeClass {} {}).isOk = true by
      decide +kernel)
  obtain ⟨ascending, found, _⟩ :=
    built_columns_ascend (.ofMetadata storeClasses) storeClass {} {} table built
  exact ⟨table, built, ascending, found⟩

end EntityMapper
