import EntityMapper.Proofs.Extraction.Bulk

/-!
# Schemas of tables

A table takes the schema that its class has in the scope all tables start from, whatever strategy the
table has of its own (`Mapping.schemaOf_of_buildIn`). All schemas of a mapping are in one database, so one
of a name is as good as another, and the list of schemas is that of the tables, each once
(`schemas_summarise`).
-/
namespace EntityMapper

/-- The database of the schemas that are resolved in a scope. -/
def Mapping.databaseIn (mapping : Mapping) (scope : Scope) : String :=
  (scope.get .database).getD mapping.databaseName

theorem Mapping.schemaOf_database {mapping : Mapping} {decl : ClassDeclaration} {scope : Scope}
    {schema : SchemaName} (resolved : mapping.schemaOf decl scope = .ok schema) :
    schema.database = mapping.databaseIn scope := by
  simp only [schemaOf, bind_eq_ok, pure_eq_ok] at resolved
  obtain ⟨strategy, _, rfl⟩ := resolved
  rfl

/-- Values that their keys tell apart are in the list exactly if they were among those it was made
of. -/
theorem Ascending.mem_ofList_iff {α : Type} {key : α → String} {values : List α}
    (told : ∀ a ∈ values, ∀ b ∈ values, key a = key b → a = b) {a : α} :
    a ∈ ofList key values ↔ a ∈ values := by
  refine ⟨mem_of_mem_ofList, fun member => ?_⟩
  obtain ⟨b, kept, same⟩ := exists_mem_ofList.mpr ⟨a, member, rfl⟩
  exact told b (mem_of_mem_ofList kept) a member same ▸ kept

theorem Ascending.Sorted.nodup {α : Type} {key : α → String} {values : List α}
    (sorted : Sorted key values) : values.Nodup := by
  refine sorted.imp fun less same => ?_
  rw [same] at less
  exact String.lt_irrefl _ less

/-- Where all tables can be built, so can the list of schemas. It ascends strictly by name and holds
just the schemas of the tables, that of each table once. -/
theorem schemas_summarise {mapping : Mapping} {tables : List Table}
    (built : mapping.tables = .ok tables) :
    ∃ schemas, mapping.schemas = .ok schemas ∧
      schemas.Pairwise (fun a b => a.name < b.name) ∧
      (∀ schema, schema ∈ schemas ↔ ∃ table ∈ tables, table.schema = schema) ∧
      ∀ table ∈ tables, schemas.count table.schema = 1 := by
  obtain ⟨base, based, built⟩ := bind_eq_ok.mp built
  have resolved := Mapping.schemasIn_of_tablesIn built
  have database : ∀ schema ∈ tables.map (·.schema), schema.database = mapping.databaseIn base := by
    rw [List.forall_mem_map]
    intro table member
    obtain ⟨decl, _, options, _, made⟩ := Mapping.exists_of_mem_tables built member
    exact Mapping.schemaOf_database (Mapping.schemaOf_of_buildIn made)
  have told : ∀ a ∈ tables.map (·.schema), ∀ b ∈ tables.map (·.schema), a.name = b.name → a = b := by
    intro a first b second same
    have place := (database a first).trans (database b second).symm
    cases a
    cases b
    cases same
    cases place
    rfl
  have sorted := Ascending.sorted_ofList (·.name) (tables.map (·.schema))
  have listed (schema : SchemaName) :
      schema ∈ Ascending.ofList (·.name) (tables.map (·.schema)) ↔
        ∃ table ∈ tables, table.schema = schema := by
    rw [Ascending.mem_ofList_iff told, List.mem_map]
  refine ⟨_, bind_eq_ok.mpr ⟨base, based, bind_eq_ok.mpr ⟨_, resolved, rfl⟩⟩, sorted, listed,
    fun table member => ?_⟩
  exact List.count_eq_one_of_mem sorted.nodup ((listed _).mpr ⟨table, member, rfl⟩)

/-- Classes of a package, of none, with a schema of their own name and with one in upper case; the last
two have no table. -/
def marketClasses : Metadata where
  classes := [
    { name := "shop.model.Order", table := some { strategy := some "upper_snake_case" } },
    { name := "Market", table := some {} },
    { name := "shop.Stall", schema := some { name := some "Model" }, table := some {} },
    { name := "shop.Note", schema := some { strategy := some "upper_snake_case" },
      table := some {} },
    { name := "hidden.State", kind := .enumeration, table := some {} },
    { name := "hidden.Part", kind := .embeddable }]
  converters := []

/-- The four tables of the market have three schemas. -/
theorem marketClasses_schemas :
    ∃ tables schemas, (Mapping.ofMetadata marketClasses).tables = .ok tables ∧
      tables.map (·.schema.name) = ["model", "public", "model", "SHOP"] ∧
      (Mapping.ofMetadata marketClasses).schemas = .ok schemas ∧
      schemas.map (·.name) = ["SHOP", "model", "public"] ∧
      schemas.Pairwise (fun a b => a.name < b.name) ∧
      ∀ table ∈ tables, schemas.count table.schema = 1 := by
  obtain ⟨tables, built, names⟩ := exists_ok_and
    (show (Mapping.ofMetadata marketClasses).tables.toOption.any (fun tables =>
        tables.map (·.schema.name) == ["model", "public", "model", "SHOP"]) = true by
      decide +kernel)
  obtain ⟨listed, shown, listedNames⟩ := exists_ok_and
    (show (Mapping.ofMetadata marketClasses).schemas.toOption.any (fun schemas =>
        schemas.map (·.name) == ["SHOP", "model", "public"]) = true by
      decide +kernel)
  obtain ⟨schemas, resolved, ascending, _, once⟩ := schemas_summarise built
  obtain rfl : listed = schemas := Except.ok.inj (shown.symm.trans resolved)
  exact ⟨tables, listed, built, beq_iff_eq.mp names, resolved, beq_iff_eq.mp listedNames,
    ascending, once⟩

end EntityMapper
