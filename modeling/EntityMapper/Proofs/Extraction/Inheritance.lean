import EntityMapper.Proofs.Extraction.Cycles
import EntityMapper.Proofs.Extraction.Union

/-!
# What inheritance adds

The table of a class with inheritance has, of each class on its superclass chain, the columns whose
names no class below has. The levels below a class decide where its variables start, and nothing
else of its columns. So the table without inheritance can be built whenever the other can, and its
columns are all in it (`inheritance_joins_levels`).
-/
namespace EntityMapper

namespace Mapping

/-- A table with inheritance contains that of its lowest level alone. -/
theorem exists_single_level {mapping : Mapping} {decl : ClassDeclaration} {options : TableOptions}
    {parent : Scope} {table : Table} (built : mapping.buildIn decl options parent = .ok table) :
    ∃ single, mapping.buildIn decl { options with inheritance := false } parent = .ok single ∧
      ∀ column ∈ single.columns, column ∈ table.columns := by
  obtain ⟨placed, columns, found, levels, rfl⟩ := buildIn_eq_ok.mp built
  obtain ⟨rest, chain⟩ : ∃ rest, lineage mapping.metadata decl options.inheritance = decl :: rest := by
    cases options.inheritance with
    | false => exact ⟨[], rfl⟩
    | true =>
      exact List.head?_eq_some_iff.mp (lineage_superclassChain mapping.metadata decl).starts
  rw [chain] at levels
  obtain ⟨own, made, rfl⟩ := ColumnFrame.ofLevels_eq_ok.mp levels
  obtain ⟨level, above, first, _, rfl⟩ := List.forall₂_cons_left_iff.mp made
  refine ⟨Table.ofColumns placed.schema placed.name decl.name options.mapping level,
    buildIn_eq_ok.mpr ⟨placed, level, found, ?_, rfl⟩, fun column member => ?_⟩
  · rw [lineage, if_neg (by simp), walkLevels_single, ColumnFrame.ofLevels_single]
    exact first
  · refine Table.mem_ofColumns.mpr (mem_foldl_joinLevel.mpr (.inr ⟨by simp, ?_⟩))
    exact ⟨[], level, above, rfl, Table.mem_ofColumns.mp member, by simp⟩

end Mapping

/-- With inheritance, a table has exactly the columns of each class on the superclass chain, walked
with the overrides of the table's class and its own and with variables numbered on, whose names no
class below has; and it has all columns of the table without inheritance. -/
theorem inheritance_joins_levels (mapping : Mapping) (decl : ClassDeclaration)
    (options : TableOptions) (parent : Scope) (table : Table) (inherits : options.inheritance = true)
    (built : mapping.buildIn decl options parent = .ok table) :
    (∃ placed chain visits after own,
      mapping.tableScope decl options parent = .ok placed ∧
      mapping.metadata.SuperclassChain decl chain ∧
      WalkedLevels mapping.metadata decl chain {} visits after ∧
      List.Forall₂ (fun visits level =>
        (mapping.columnFrame parent placed).ofLevel visits = .ok level) visits own ∧
      (table.columns.map (·.name)).Nodup ∧
      ∀ column, column ∈ table.columns ↔
        ∃ lower level upper, own = lower ++ level :: upper ∧ column ∈ level ∧
          ∀ below ∈ lower, column.name ∉ below.map (·.name)) ∧
    ∃ single, mapping.buildIn decl { options with inheritance := false } parent = .ok single ∧
      ∀ column ∈ single.columns, column ∈ table.columns := by
  refine ⟨?_, Mapping.exists_single_level built⟩
  obtain ⟨placed, columns, found, levels, rfl⟩ := Mapping.buildIn_eq_ok.mp built
  obtain ⟨after, walked⟩ := walkLevels_run mapping.metadata decl
    (lineage mapping.metadata decl options.inheritance) {}
  have distinct := ColumnFrame.ofLevels_nodup levels
  obtain ⟨own, made, rfl⟩ := ColumnFrame.ofLevels_eq_ok.mp levels
  refine ⟨placed, _, _, after, own, found, ?_, walked, made, ?_, fun column => ?_⟩
  · rw [inherits]
    exact lineage_superclassChain mapping.metadata decl
  · exact ((Table.ofColumns_perm _ _ _ _ _).map (·.name)).nodup_iff.mpr distinct
  · rw [Table.mem_ofColumns, mem_foldl_joinLevel]
    simp

/-- A product has a label of its own in place of that of its base. -/
def baseClass : ClassDeclaration where
  name := "shop.Base"
  fields := [
    { name := "id", type := "long" },
    { name := "createdAt", type := "java.time.LocalDateTime" },
    { name := "label", type := "int" }]

def productClass : ClassDeclaration where
  name := "shop.Product"
  superclass := some "shop.Base"
  fields := [{ name := "label", type := "java.lang.String" }]

def shopClasses : Metadata where
  classes := [baseClass, productClass]
  converters := []

/-- The column of the product without inheritance is among those with it. -/
theorem productClass_joins_base :
    ∃ table single,
      (Mapping.ofMetadata shopClasses).buildIn productClass { inheritance := true } {} =
        .ok table ∧
      (Mapping.ofMetadata shopClasses).buildIn productClass { inheritance := false } {} =
        .ok single ∧
      ∀ column ∈ single.columns, column ∈ table.columns := by
  obtain ⟨table, built⟩ := exists_eq_ok
    (show ((Mapping.ofMetadata shopClasses).buildIn productClass { inheritance := true }
        {}).isOk = true by
      decide +kernel)
  obtain ⟨single, alone, kept⟩ := (inheritance_joins_levels (.ofMetadata shopClasses) productClass
    { inheritance := true } {} table rfl built).2
  exact ⟨table, single, built, alone, kept⟩

end EntityMapper
