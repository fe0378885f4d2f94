import EntityMapper.Proofs.Extraction.Origins
import EntityMapper.Proofs.Mapper.Rebuild
import EntityMapper.Proofs.Walk.Instances

/-!
# Tables whose variables identify instances

The variables of a table are handed out by one allocator, level after level. Where the base names it
was asked for are apart, columns share a variable only if they share the instance, at one level and
under the same fields around it, and the mapper method rebuilds the entity
(`built_table_rebuilds`). Where a base name is another one with digits at its end, two instances
can have one variable (`crowdedOrder_shares_variable`).
-/
namespace EntityMapper

/-- The embedded fields that a table's levels enter are handed their variables in turn, and every
instance on the way of a column is entered at the level of the column. -/
theorem TableWalk.enters {mapping : Mapping} {decl : ClassDeclaration} {options : TableOptions}
    {parent : Scope} (walk : TableWalk mapping decl options parent) :
    ∃ entered : List (ClassDeclaration × Instance),
      Handed {} (entered.map (·.2.field)) walk.after ∧
      ∀ level path column, walk.Origin level path column →
        ∀ inst : Instance, inst.chain <+: column.parents → (level, inst) ∈ entered := by
  obtain ⟨entered, handed, reached⟩ := walk.walked.enters
  refine ⟨entered, handed, fun level path column origin inst within => ?_⟩
  rw [origin.parents] at within
  obtain ⟨seen, overrides, paired, visited, _⟩ := origin
  exact reached level seen paired path overrides visited inst within

/-- Columns that pass through one instance are of one level. -/
theorem TableWalk.Origin.level_eq {mapping : Mapping} {decl : ClassDeclaration}
    {options : TableOptions} {parent : Scope} {walk : TableWalk mapping decl options parent}
    {levelA levelB : ClassDeclaration} {pathA pathB : FieldPath} {a b : Column}
    (originA : walk.Origin levelA pathA a) (originB : walk.Origin levelB pathB b) {inst : Instance}
    (ofA : inst.chain <+: a.parents) (ofB : inst.chain <+: b.parents) : levelA = levelB := by
  obtain ⟨entered, handed, reached⟩ := walk.enters
  have typed := handed.nodup_typed
  rw [List.map_map] at typed
  exact congrArg Prod.fst (List.inj_on_of_nodup_map typed (reached levelA pathA a originA inst ofA)
    (reached levelB pathB b originB inst ofB) rfl)

/-- Variables of types are not those of the entity and the record, which end in a letter. -/
theorem Variables.named_ne (entry : String × Nat) :
    named entry ≠ ToEntity.entityVariable ∧ named entry ≠ ToEntity.recordVariable := by
  obtain ⟨digit, last, isDigit⟩ := getLast?_named entry
  constructor
  all_goals
    intro same
    rw [same] at last
    cases last
    exact absurd isDigit (by decide)

open ToEntity (method Rebuilds) in
/-- One allocator gives types different variables exactly when their base names are apart. When
those of all embedded fields that a table's levels enter are, two of its columns have a variable in
common only as the variable of one embedded field, at one level and inside the same fields, and the
mapper method declares one variable for each instance and rebuilds the entity. -/
theorem built_table_rebuilds (mapping : Mapping) (decl : ClassDeclaration) (options : TableOptions)
    (parent : Scope) (table : Table) (built : mapping.buildIn decl options parent = .ok table) :
    (∀ typeNames, (Variables.allocateAll typeNames {}).Nodup ↔
      Variables.Apart (typeNames.map Variables.base)) ∧
    ∃ walk : TableWalk mapping decl options parent,
      (∀ column ∈ table.columns, ∃ level path, walk.Origin level path column) ∧
      (Variables.Apart walk.after.taken →
        (∀ levelA pathA a levelB pathB b, walk.Origin levelA pathA a → walk.Origin levelB pathB b →
          ∀ first second : Instance, first.chain <+: a.parents → second.chain <+: b.parents →
            first.field.varName = second.field.varName → levelA = levelB ∧ first = second) ∧
        ∀ context, ∃ (embedded : List Instance) (final : Java.Machine),
          (∀ inst, inst ∈ embedded ↔ table.HasInstance inst) ∧ embedded.Nodup ∧
          Java.runMethod (method context table) = some final ∧
          Rebuilds context table embedded final) := by
  refine ⟨Variables.nodup_allocateAll, ?_⟩
  obtain ⟨walk, origins⟩ := Mapping.buildIn_origins built
  obtain ⟨entered, handed, reached⟩ := walk.enters
  refine ⟨walk, origins, fun apart => ?_⟩
  have distinct : (entered.map (·.2.field.varName)).Nodup := by
    simpa [Function.comp_def] using handed.nodup apart
  have shared : ∀ levelA pathA a levelB pathB b, walk.Origin levelA pathA a →
      walk.Origin levelB pathB b → ∀ first second : Instance, first.chain <+: a.parents →
        second.chain <+: b.parents → first.field.varName = second.field.varName →
          levelA = levelB ∧ first = second := by
    intro levelA pathA a levelB pathB b originA originB first second ofA ofB same
    exact Prod.mk.inj (List.inj_on_of_nodup_map distinct
      (reached levelA pathA a originA first ofA) (reached levelB pathB b originB second ofB) same)
  have identified : table.IdentifiesInstances := by
    refine ⟨fun a memberA b memberB first second ofA ofB same => ?_,
      fun column member field inParents => ?_⟩
    · obtain ⟨levelA, pathA, originA⟩ := origins a memberA
      obtain ⟨levelB, pathB, originB⟩ := origins b memberB
      exact (shared levelA pathA a levelB pathB b originA originB first second ofA ofB same).2
    · obtain ⟨outer, below, split⟩ := List.append_of_mem inParents
      have within : (Instance.mk outer field).chain <+: column.parents :=
        ⟨below, by simp [Instance.chain, split]⟩
      obtain ⟨level, path, origin⟩ := origins column member
      obtain ⟨entry, named⟩ := handed.exists_named (List.mem_map_of_mem (f := (·.2.field))
        (reached level path column origin ⟨outer, field⟩ within))
      exact named ▸ Variables.named_ne entry
  refine ⟨shared, fun context => ?_⟩
  have groups := ToEntity.groups_of_identified identified
  obtain ⟨final, ran, rebuilt⟩ := groups.rebuilds context
  exact ⟨_, final, groups.listed, groups.once, ran, rebuilt⟩

/-- A parcel goes from one address to another. -/
def parcelClass : ClassDeclaration where
  name := "shop.Parcel"
  fields := [
    { name := "sender", type := "shop.Address", embedded := some [] },
    { name := "receiver", type := "shop.Address", embedded := some [] }]

def addressClass : ClassDeclaration where
  name := "shop.Address"
  kind := .embeddable
  fields := [{ name := "street", type := "java.lang.String" }]

def parcelClasses : Metadata where
  classes := [parcelClass, addressClass]
  converters := []

/-- A parcel is rebuilt with both its addresses. -/
theorem parcelClass_rebuilds :
    ∃ table, (Mapping.ofMetadata parcelClasses).buildIn parcelClass {} {} = .ok table ∧
      ∀ context, ∃ (embedded : List Instance) (final : Java.Machine),
        (∀ inst, inst ∈ embedded ↔ table.HasInstance inst) ∧
        Java.runMethod (ToEntity.method context table) = some final ∧
        ToEntity.Rebuilds context table embedded final := by
  obtain ⟨table, built⟩ := exists_eq_ok
    (show ((Mapping.ofMetadata parcelClasses).buildIn parcelClass {} {}).isOk = true by
      decide +kernel)
  obtain ⟨_, walk, _, rebuilt⟩ :=
    built_table_rebuilds (.ofMetadata parcelClasses) parcelClass {} {} table built
  -- The variables in the end are those of two addresses.
  obtain ⟨after, computed, taken⟩ : ∃ after,
      WalkedLevels parcelClasses parcelClass [parcelClass] {}
        (walkLevels parcelClasses parcelClass [parcelClass] {}) after ∧
      after.taken = ["address", "address"] :=
    ⟨_, .level (walk_level_walked parcelClasses parcelClass parcelClass {}) (.done _),
      by decide +kernel⟩
  have levels : walk.levels = [parcelClass] := walk.ruled
  have same : walk.after = after := ((levels ▸ walk.walked).unique computed).2
  refine ⟨table, built, fun context => ?_⟩
  obtain ⟨embedded, machine, listed, _, ran, rebuilds⟩ :=
    (rebuilt (same ▸ taken ▸ Variables.apart_of_letters (by decide +kernel))).2 context
  exact ⟨embedded, machine, listed, ran, rebuilds⟩

/-- An order with eleven addresses and one of another type, whose name is theirs with a digit. -/
def crowdedOrder : ClassDeclaration where
  name := "shop.Order"
  fields := { name := "former", type := "shop.Address1", embedded := some [] } ::
    "ABCDEFGHIJK".toList.map fun letter =>
      { name := "stop".push letter, type := "shop.Address", embedded := some [] }

def crowdedClasses : Metadata where
  classes := [crowdedOrder, addressClass, { addressClass with name := "shop.Address1" }]
  converters := []

/-- The only address of one type and the eleventh of the other have one variable, and so have two
instances of the order's table. -/
theorem crowdedOrder_shares_variable :
    ¬ (Variables.allocateAll ("shop.Address1" :: List.replicate 11 "shop.Address") {}).Nodup ∧
      ∃ table, (Mapping.ofMetadata crowdedClasses).buildIn crowdedOrder {} {} = .ok table ∧
        ∃ first second, table.HasInstance first ∧ table.HasInstance second ∧ first ≠ second ∧
          first.field.varName = second.field.varName := by
  let former : Embedding := ⟨"former", "shop.Address1", "address11"⟩
  let last : Embedding := ⟨"stopK", "shop.Address", "address11"⟩
  obtain ⟨table, built, both⟩ := Mapping.exists_table_of_columnsIn
    (show ((Mapping.ofMetadata crowdedClasses).columnsIn crowdedOrder {} {}).toOption.any
        (fun columns => decide (columns.Pairwise fun a b => a.name ≤ b.name) &&
          (columns.any (·.parents == [former]) && columns.any (·.parents == [last]))) = true by
      decide +kernel)
  have reached {field : Embedding} (some : table.columns.any (·.parents == [field]) = true) :
      table.HasInstance ⟨[], field⟩ := by
    obtain ⟨column, member, parents⟩ := List.any_eq_true.mp some
    exact ⟨column, member, by simp [Instance.chain, beq_iff_eq.mp parents]⟩
  obtain ⟨ofFormer, ofLast⟩ := Bool.and_eq_true_iff.mp both
  exact ⟨by decide +kernel, table, built, ⟨[], former⟩, ⟨[], last⟩, reached ofFormer, reached ofLast,
    by decide, rfl⟩

end EntityMapper
