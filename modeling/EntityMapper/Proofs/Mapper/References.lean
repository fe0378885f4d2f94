import EntityMapper.Proofs.Extraction.Converters
import EntityMapper.Proofs.Mapper.Assembly

/-!
# Converter constants that mapper methods refer to

A method passes the constant of a converter along with each column that has one: the method that reads
records for every column, embedded ones included (`mem_passed_toEntity`), the one that writes them for
the direct columns (`mem_passed_toRecord`). Where converters of one key are equal these are the
constants that the mapper class declares (`converter_constants_closed`).
-/
namespace EntityMapper

namespace Java

/-- The names among the arguments that follow a column, which is a member of a constant. -/
def besideColumn : List Expr → List String
  | .access (.name _) _ :: others =>
    others.filterMap fun
      | .name identifier => some identifier
      | _ => none
  | _ => []

mutual

/-- The constants that the calls in an expression pass along with a column. -/
def Expr.passed : Expr → List String
  | .name _ => []
  | .text _ => []
  | .classLiteral _ => []
  | .access object _ => object.passed
  | .call none _ arguments => besideColumn arguments ++ passedAmong arguments
  | .call (some object) _ arguments =>
    object.passed ++ besideColumn arguments ++ passedAmong arguments
  | .new _ arguments => passedAmong arguments

def passedAmong : List Expr → List String
  | [] => []
  | first :: rest => first.passed ++ passedAmong rest

end

/-- The constants that a statement passes along with a column. -/
def Element.passed : Element → List String
  | .expr value => value.passed
  | .localVar _ _ (some initial) => initial.passed
  | .result (some value) => value.passed
  | .statement inner => inner.passed
  | _ => []

end Java

open Java (Element Expr besideColumn passedAmong)

namespace MapperContext

/-- The constant of a column's converter, if it has one. -/
def constant? (context : MapperContext) (table : Table) (column : Column) : Option String :=
  column.converter.map (context.converterConstant table)

theorem columnArguments_eq (context : MapperContext) (table : Table) (column : Column)
    (value : Option Expr) :
    context.columnArguments table column value = columnReference table column :: (value.toList ++
      ((context.constant? table column).map Expr.name).toList) := by
  unfold columnArguments constant?
  cases column.converter <;> rfl

end MapperContext

theorem ToEntity.passed_readColumn (context : MapperContext) (table : Table) (owner : String)
    (column : Column) :
    (readColumn context table owner column).passed = (context.constant? table column).toList := by
  rw [readColumn, MapperContext.columnArguments_eq]
  cases context.constant? table column <;>
    simp [Element.passed, Expr.send, Expr.passed, passedAmong, besideColumn,
      MapperContext.columnReference]

theorem ToRecord.passed_storeColumn (context : MapperContext) (table : Table) (column : Column) :
    (storeColumn context table column).passed = (context.constant? table column).toList := by
  rw [storeColumn, MapperContext.columnArguments_eq]
  cases context.constant? table column <;>
    simp [Element.passed, Expr.send, Expr.passed, passedAmong, besideColumn,
      MapperContext.columnReference]

namespace ToEntity

open EmbeddedObject (allColumns)

/-- A build stores the columns that its objects hold. -/
theorem exists_fetch_buildScript (objects : List EmbeddedObject) (column : Column) :
    (∃ owner, Action.fetch owner column ∈ buildScript objects) ↔ column ∈ allColumns objects := by
  induction objects using buildScript.induct with
  | case1 => simp [buildScript, allColumns]
  | case2 field columns inner rest ihInner ihRest =>
    simp only [buildScript, allColumns, List.mem_append, exists_or, ihInner, ihRest]
    have own : (∃ owner, Action.fetch owner column ∈ ownActions field columns inner) ↔
        column ∈ columns := by
      simp [ownActions]
    rw [own]
    tauto

/-- The script of a table stores its columns and no others, even where variables are shared. -/
theorem exists_fetch_entityScript (table : Table) (column : Column) :
    (∃ owner, Action.fetch owner column ∈ entityScript table) ↔ column ∈ table.columns := by
  have grouped := EmbeddedObject.allColumns_ofColumns fun _ => table.parents_ne_nil
  have inside := grouped.mem_iff (a := column)
  have either := (columns_perm table).mem_iff (a := column)
  rw [← either, List.mem_append, ← inside, ← exists_fetch_buildScript]
  have outermost := flatMap_buildScript_perm (EmbeddedObject.ofColumns table.embeddedColumns)
  simp [entityScript, outermost.mem_iff, exists_or]

theorem passed_element (context : MapperContext) (table : Table) (action : Action) (name : String) :
    name ∈ (action.element context table).passed ↔
      ∃ owner column, action = .fetch owner column ∧ context.constant? table column = some name := by
  cases action with
  | create varName typeName =>
    simp [Action.element, declareNew, Element.passed, Expr.passed, passedAmong]
  | fetch owner column => simp [Action.element, passed_readColumn]
  | attach owner field =>
    simp [Action.element, attach, Element.passed, Expr.send, Expr.passed, passedAmong, besideColumn]

/-- The method that reads records passes the constants of the converters of all columns. -/
theorem mem_passed_toEntity (context : MapperContext) (table : Table) (name : String) :
    name ∈ (body context table).flatMap Element.passed ↔
      ∃ column ∈ table.columns, context.constant? table column = some name := by
  have gives : name ∉ (Element.result (some (.name entityVariable))).passed := by
    simp [Element.passed, Expr.passed]
  simp only [body_eq, List.flatMap_append, List.flatMap_map, List.flatMap_singleton, List.mem_append,
    gives, or_false, List.mem_flatMap, passed_element, ← exists_fetch_entityScript]
  constructor
  · rintro ⟨action, member, owner, column, rfl, passes⟩
    exact ⟨column, ⟨owner, member⟩, passes⟩
  · rintro ⟨column, ⟨owner, member⟩, passes⟩
    exact ⟨_, member, owner, column, rfl, passes⟩

end ToEntity

/-- The method that writes records passes those of the direct columns. -/
theorem ToRecord.mem_passed_toRecord (context : MapperContext) (table : Table) (name : String) :
    name ∈ (body context table).flatMap Element.passed ↔
      ∃ column ∈ table.directColumns, context.constant? table column = some name := by
  simp [body, Element.passed, Expr.send, Expr.passed, passedAmong, besideColumn, List.flatMap_map,
    passed_storeColumn]

namespace Table

/-- The converters of the columns, in their order. -/
def columnConverters (table : Table) : List Converter :=
  table.columns.filterMap (·.converter)

theorem mem_columnConverters {table : Table} {converter : Converter} :
    converter ∈ table.columnConverters ↔
      ∃ column ∈ table.columns, column.converter = some converter := by
  rw [columnConverters, List.mem_filterMap]

/-- Where equal keys have equal converters, the table keeps those of all columns. -/
theorem mem_converters {table : Table}
    (alike : ∀ first ∈ table.columnConverters, ∀ second ∈ table.columnConverters,
      first.same second = true → first = second) (converter : Converter) :
    converter ∈ table.converters ↔ converter ∈ table.columnConverters := by
  constructor
  · intro member
    exact mem_columnConverters.mpr (exists_column_of_mem_converters member)
  · intro member
    obtain ⟨column, inTable, converts⟩ := mem_columnConverters.mp member
    refine table.converters_complete_iff.mpr ?_ column inTable converter converts
    intro a ofA b ofB first second convertsA convertsB same
    exact alike first (mem_columnConverters.mpr ⟨a, ofA, convertsA⟩) second
      (mem_columnConverters.mpr ⟨b, ofB, convertsB⟩) same

end Table

/-- The class of a converter in emitted sources; a generic one has the boxed types that it converts
between as arguments. -/
def Converter.writtenType (converter : Converter) : Java.TypeRef :=
  .parse converter.converterType (if converter.generic then
    [.named (Java.boxed converter.fromType), .named (Java.boxed converter.toType)] else [])

theorem MapperPart.converterField_type (context : MapperContext) (table : Table)
    (converter : Converter) :
    (converterField context table converter).type = converter.writtenType := by
  unfold converterField Converter.writtenType
  split <;> rfl

theorem MapperPart.mem_names_converterFields {context : MapperContext} {table : Table}
    {name : String} :
    name ∈ (converterFields context table).map (·.name) ↔
      ∃ converter ∈ table.converters, context.converterConstant table converter = name := by
  rw [converterFields_names, List.mem_map]

open MapperPart (converterField converterFields) in
/-- Where converters of one key are equal, the converter constants that a mapper class declares are
those that its reading method passes, and include those that its writing method passes. There is one
for each converter of the columns, in ascending order of keys. Where the constants of different
converters differ, the one that a column passes is declared with the type of the column's converter. -/
theorem converter_constants_closed (context : MapperContext) (table : Table)
    (enabled : table.mappingEnabled = true)
    (alike : ∀ first ∈ table.columnConverters, ∀ second ∈ table.columnConverters,
      first.same second = true → first = second) :
    (MapperPart.converters.layout context table =
        (converterFields context table).flatMap (·.layout) ∧
      MapperPart.toEntity.layout context table = (ToEntity.method context table).layout ∧
      MapperPart.toRecord.layout context table = (ToRecord.method context table).layout) ∧
    (∀ name, name ∈ (ToEntity.body context table).flatMap Element.passed ↔
      name ∈ (converterFields context table).map (·.name)) ∧
    (∀ name ∈ (ToRecord.body context table).flatMap Element.passed,
      name ∈ (converterFields context table).map (·.name)) ∧
    (converterFields context table = table.converters.map (converterField context table) ∧
      table.converters.Pairwise (fun first second => first.key < second.key) ∧
      ∀ converter, converter ∈ table.converters ↔ converter ∈ table.columnConverters) ∧
    ((∀ first ∈ table.columnConverters, ∀ second ∈ table.columnConverters, first ≠ second →
        context.converterConstant table first ≠ context.converterConstant table second) →
      ∀ column ∈ table.columns, ∀ converter, column.converter = some converter →
        ∃ field ∈ converterFields context table,
          (∀ value, context.columnArguments table column value =
            .access (.name table.constant) column.constant :: (value.toList ++ [.name field.name])) ∧
          (∀ other ∈ converterFields context table, other.name = field.name → other = field) ∧
          field.type = converter.writtenType) := by
  have kept := Table.mem_converters alike
  have declared (name : String) :
      (∃ column ∈ table.columns, context.constant? table column = some name) ↔
        name ∈ (converterFields context table).map (·.name) := by
    simp only [MapperPart.mem_names_converterFields, kept, Table.mem_columnConverters,
      MapperContext.constant?, Option.map_eq_some_iff]
    constructor
    · rintro ⟨column, member, converter, converts, named⟩
      exact ⟨converter, ⟨column, member, converts⟩, named⟩
    · rintro ⟨converter, ⟨column, member, converts⟩, named⟩
      exact ⟨column, member, converter, converts, named⟩
  refine ⟨⟨?_, ?_, ?_⟩, ?_, ?_, ⟨rfl, Ascending.sorted_ofList Converter.key _, kept⟩, ?_⟩
  · simp [MapperPart.converters, MapperPart.whenMapped, enabled, converterFields, List.flatMap_map]
  · simp [MapperPart.toEntity, MapperPart.whenMapped, enabled]
  · simp [MapperPart.toRecord, MapperPart.whenMapped, enabled]
  · intro name
    rw [ToEntity.mem_passed_toEntity, declared]
  · intro name passes
    obtain ⟨column, member, named⟩ := (ToRecord.mem_passed_toRecord context table name).mp passes
    exact (declared name).mp ⟨column, List.mem_of_mem_filter member, named⟩
  · intro apart column member converter converts
    have own := Table.mem_columnConverters.mpr ⟨column, member, converts⟩
    refine ⟨converterField context table converter, List.mem_map_of_mem ((kept converter).mpr own),
      ?_, ?_, MapperPart.converterField_type context table converter⟩
    · intro value
      rw [MapperContext.columnArguments_eq, MapperContext.constant?, converts,
        MapperPart.converterField_name]
      rfl
    · intro other among named
      obtain ⟨second, inConverters, rfl⟩ := List.mem_map.mp among
      rw [MapperPart.converterField_name, MapperPart.converterField_name] at named
      have same : second = converter := by
        by_contra differ
        exact apart second ((kept second).mp inConverters) converter own differ named
      rw [same]

/-- A bill with a sum, a state of its own and one inside the embedded receipt. -/
def billTable : Table where
  schema := ⟨"entities", "shop"⟩
  name := "bills"
  className := "shop.Bill"
  mappingEnabled := true
  columns :=
    let state := "shop.State"
    let byState := some (QueryLibrary.jooq.enumDefault state)
    [ ⟨"bills", "receipt_state", "state", ⟨"shop", .enumeration state, "varchar", "", byState⟩,
        [⟨"receipt", "shop.Receipt", "receipt1"⟩]⟩,
      ⟨"bills", "state", "state", ⟨"shop", .enumeration state, "varchar", "", byState⟩, []⟩,
      ⟨"bills", "sum", "sum", ⟨"shop", .named "sum.Money", "bigint", "",
        some ⟨"fx.Rate", "long", "sum.Money", false⟩⟩, []⟩ ]
  columns_sorted := by decide

open MapperPart (converterFields) in
/-- The constants of the bill's mapper are those that its reading method passes. -/
theorem billTable_constants_closed :
    billTable.mappingEnabled = true ∧
      (∀ first ∈ billTable.columnConverters, ∀ second ∈ billTable.columnConverters,
        first.same second = true → first = second) ∧
      billTable.columnConverters.length = 3 ∧ billTable.converters.length = 2 ∧
      ∀ name, name ∈ (ToEntity.body {} billTable).flatMap Element.passed ↔
        name ∈ (converterFields {} billTable).map (·.name) := by
  have alike : ∀ first ∈ billTable.columnConverters, ∀ second ∈ billTable.columnConverters,
      first.same second = true → first = second := by
    decide +kernel
  obtain ⟨_, passes, _⟩ := converter_constants_closed {} billTable rfl alike
  exact ⟨rfl, alike, by decide +kernel, by decide +kernel, passes⟩

end EntityMapper
