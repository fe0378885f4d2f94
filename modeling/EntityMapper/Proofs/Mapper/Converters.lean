import EntityMapper.Mapper.Part
import EntityMapper.Proofs.Extraction.Build
import Mathlib.Data.List.Nodup

/-!
# Constants of converters

Each converter of a table is named on its own, by the shortest naming under which no other converter
has its name. So converters named alike differ in name, unless they are written out in full; but
names of different length are not compared, and the mapper class declares its constants apart
exactly when those happen to differ (`converterConstants_nodup`).
-/
namespace EntityMapper

namespace MapperContext

/-- The naming that the constant of a converter settles on among others. -/
def namingFor (context : MapperContext) (converters : List Converter) (converter : Converter) :
    ConverterNaming :=
  if !context.clashes converters .simple converter then .simple
  else if !context.clashes converters .qualifiedTarget converter then .qualifiedTarget
  else .qualified

theorem converterConstant_eq (context : MapperContext) (table : Table) (converter : Converter) :
    context.converterConstant table converter =
      context.converterName (context.namingFor table.converters converter) converter := by
  rw [converterConstant, namingFor]
  split
  · rfl
  · split <;> rfl

/-- Short of the longest naming, no other converter has the name. -/
theorem not_clashes_namingFor {context : MapperContext} {converters : List Converter}
    {converter : Converter} (short : context.namingFor converters converter ≠ .qualified) :
    context.clashes converters (context.namingFor converters converter) converter = false := by
  rw [namingFor] at short ⊢
  by_cases simple : context.clashes converters .simple converter = false
  · simp [simple]
  · by_cases target : context.clashes converters .qualifiedTarget converter = false
    · simp [simple, target]
    · simp [simple, target] at short

theorem converterName_ne {context : MapperContext} {converters : List Converter}
    {naming : ConverterNaming} {converter other : Converter}
    (clear : context.clashes converters naming converter = false) (member : other ∈ converters)
    (differs : other.same converter = false) :
    context.converterName naming other ≠ context.converterName naming converter := by
  intro equal
  have clashes : context.clashes converters naming converter = true :=
    List.any_eq_true.mpr ⟨other, member, by simp [differs, equal]⟩
  rw [clear] at clashes
  cases clashes

end MapperContext

theorem Table.nodup_converter_keys (table : Table) :
    (table.converters.map Converter.key).Nodup :=
  List.pairwise_map.mpr ((Ascending.sorted_ofList Converter.key _).imp String.ne_of_lt)

/-- The converters of a table are some of those of its columns. -/
theorem Table.exists_column_of_mem_converters {table : Table} {converter : Converter}
    (member : converter ∈ table.converters) :
    ∃ column ∈ table.columns, column.converter = some converter :=
  List.mem_filterMap.mp (List.mem_reverse.mp (Ascending.mem_of_mem_ofList member))

/-- Two converters of a table that are named alike, and not in full, have different constants. -/
theorem converterConstant_ne {context : MapperContext} {table : Table} {first second : Converter}
    (ofFirst : first ∈ table.converters) (ofSecond : second ∈ table.converters)
    (differ : first ≠ second)
    (alike : context.namingFor table.converters first = context.namingFor table.converters second)
    (short : context.namingFor table.converters first ≠ .qualified) :
    context.converterConstant table first ≠ context.converterConstant table second := by
  have keys : first.same second = false := beq_eq_false_iff_ne.mpr fun same =>
    differ (List.inj_on_of_nodup_map table.nodup_converter_keys ofFirst ofSecond same)
  rw [MapperContext.converterConstant_eq, MapperContext.converterConstant_eq, alike]
  rw [alike] at short
  exact MapperContext.converterName_ne (MapperContext.not_clashes_namingFor short) ofFirst keys

namespace MapperPart

/-- The constants that the mapper class of a table declares for its converters. -/
def converterFields (context : MapperContext) (table : Table) : List Java.FieldMember :=
  table.converters.map (converterField context table)

theorem converterField_name (context : MapperContext) (table : Table) (converter : Converter) :
    (converterField context table converter).name = context.converterConstant table converter := by
  rw [converterField]
  split <;> rfl

theorem converterFields_names (context : MapperContext) (table : Table) :
    (converterFields context table).map (·.name) =
      table.converters.map (context.converterConstant table) := by
  rw [converterFields, List.map_map]
  exact List.map_congr_left fun converter _ => converterField_name context table converter

end MapperPart

open MapperPart (converterField converterFields) in
/-- A mapper class declares its converters under different names exactly when those of converters
that are named by different namings, or both in full, differ. Where it does, the constant that a
column with a converter of the table refers to is the one declared for this converter. -/
theorem converterConstants_nodup (context : MapperContext) (table : Table) :
    (((converterFields context table).map (·.name)).Nodup ↔
      ∀ first ∈ table.converters, ∀ second ∈ table.converters, first ≠ second →
        (context.namingFor table.converters first ≠ context.namingFor table.converters second ∨
          context.namingFor table.converters first = .qualified) →
        context.converterConstant table first ≠ context.converterConstant table second) ∧
      (((converterFields context table).map (·.name)).Nodup →
        ∀ converter ∈ table.converters, ∀ field ∈ converterFields context table,
          field.name = context.converterConstant table converter →
            field = converterField context table converter) := by
  rw [MapperPart.converterFields_names]
  have iff := List.nodup_map_iff_inj_on (f := context.converterConstant table)
    (List.Nodup.of_map _ table.nodup_converter_keys)
  refine ⟨iff.trans ⟨?_, ?_⟩, fun distinct converter member field declared named => ?_⟩
  · exact fun injective first ofFirst second ofSecond differ _ same =>
      differ (injective first ofFirst second ofSecond same)
  · intro apart first ofFirst second ofSecond same
    by_contra differ
    by_cases crossed :
        context.namingFor table.converters first ≠ context.namingFor table.converters second ∨
          context.namingFor table.converters first = .qualified
    · exact apart first ofFirst second ofSecond differ crossed same
    · obtain ⟨alike, short⟩ := not_or.mp crossed
      exact converterConstant_ne ofFirst ofSecond differ (not_not.mp alike) short same
  · obtain ⟨other, ofOther, rfl⟩ := List.mem_map.mp declared
    rw [MapperPart.converterField_name] at named
    rw [iff.mp distinct other ofOther converter member named]

/-- A task with three states of one kind each. -/
def taskClass : ClassDeclaration where
  name := "shop.Task"
  fields := [
    { name := "audit", type := "x.AStatus" }, { name := "first", type := "a.Status" },
    { name := "second", type := "b.Status" }]

def taskClasses : Metadata where
  classes := [taskClass, { name := "x.AStatus", kind := .enumeration },
    { name := "a.Status", kind := .enumeration }, { name := "b.Status", kind := .enumeration }]
  converters := []

/-- The state of one type is written out with its package, to tell it from another of its name, and
then is named like a third; in lower case and in upper case. -/
theorem taskClass_shares_constant :
    ∃ table, (Mapping.ofMetadata taskClasses).buildIn taskClass {} {} = .ok table ∧
      ∃ first second, first ∈ table.converters ∧ second ∈ table.converters ∧ first ≠ second ∧
        ∀ case : LetterCase,
          MapperContext.converterConstant { strategy := case.snake } table first =
            MapperContext.converterConstant { strategy := case.snake } table second := by
  let ofEnum (type : String) : Converter :=
    ⟨"org.jooq.impl.EnumConverter", "java.lang.String", type, true⟩
  let found := [ofEnum "a.Status", ofEnum "b.Status", ofEnum "x.AStatus"]
  obtain ⟨table, built, listed⟩ := Mapping.exists_table_of_columnsIn
    (show ((Mapping.ofMetadata taskClasses).columnsIn taskClass {} {}).toOption.any
        (fun columns => decide (columns.Pairwise fun a b => a.name ≤ b.name) &&
          decide (Converter.distinct (columns.filterMap (·.converter)).reverse = found)) = true by
      decide +kernel)
  have converters : table.converters = found := of_decide_eq_true listed
  refine ⟨table, built, ofEnum "x.AStatus", ofEnum "a.Status", ?_, ?_, by decide, fun case => ?_⟩
  · exact converters ▸ List.mem_of_getElem? (i := 2) rfl
  · exact converters ▸ List.mem_cons_self
  · rw [MapperContext.converterConstant_eq, MapperContext.converterConstant_eq, converters]
    cases case <;> decide +kernel

end EntityMapper
