import EntityMapper.Proofs.Extraction.Build
import EntityMapper.Proofs.Extraction.Precedence
import EntityMapper.Proofs.Java.StringLiteral
import EntityMapper.Proofs.TypeMapping.Lookup

/-!
# SQL types of columns

The dialect of a column knows its SQL type. Unless a literal was asked for, it is also the type that
the dialect has for the class the column stores, so the class and the SQL type in the column's
descriptor belong together (`column_types_correspond`). This needs the default converter of enums: the
dialect's row for enums is not found by the name of an enum.
-/
namespace EntityMapper

/-- The dialect has the column's SQL type for the class that the column stores. -/
def Column.TypesCorrespond (column : Column) (types : DialectRouter) : Prop :=
  types.sqlType column.dataType.dialect (.named column.dataType.storedType) =
    .ok column.dataType.sqlType

/-- The column's descriptor constructs a data type from the dialect, the class that the column stores
and a string literal that denotes its SQL type, unless a carriage return breaks the literal. -/
structure Column.DescribedFor (column : Column) (writer : QueryLibrary) : Prop where
  text : column.dataType.reference writer =
    "new " ++ writer.dataType ++ "(" ++ writer.dialectEnum ++ "." ++
      (if column.dataType.dialect = "" then writer.defaultDialect
        else Text.upper column.dataType.dialect) ++ ", " ++
      column.dataType.storedType ++ ".class, " ++ Java.quoted column.dataType.sqlType ++ ")"
  stored : column.dataType.storedType = Java.boxed
    ((column.dataType.converter.map (·.fromType)).getD column.dataType.fieldType.name)
  denotes : ∀ sql, Java.stringValue? (Java.quoted column.dataType.sqlType) = some (Java.utf16 sql) ↔
    sql = column.dataType.sqlType ∧ '\r' ∉ column.dataType.sqlType.toList

theorem Column.describedFor (column : Column) (writer : QueryLibrary) :
    column.DescribedFor writer where
  text := by
    simp only [DataType.reference, QueryLibrary.dataTypeLiteral, QueryLibrary.dialectReference,
      String.append_assoc]
  stored := by
    rw [DataType.storedType]
    cases column.dataType.converter <;> rfl
  denotes _ := Java.stringValue?_quoted_eq_some

namespace ColumnFrame

variable {frame : ColumnFrame}

theorem exists_fieldType {literal : Option String} {converter : Option Converter}
    {type : FieldType} {sql : String} (typed : frame.sqlType literal converter type = .ok sql) :
    ∃ key, frame.mapping.types.fieldType frame.dialect sql = .ok key := by
  cases literal with
  | some literal =>
    obtain ⟨key, known, same⟩ := bind_eq_ok.mp typed
    cases same
    exact ⟨key, known⟩
  | none =>
    cases converter with
    | some converter => exact DialectRouter.exists_fieldType typed
    | none => exact DialectRouter.exists_fieldType typed

/-- Over the standard defaults, a column without converter is of no enum. -/
theorem isEnum_of_resolve_none {library : QueryLibrary}
    (standard : frame.mapping.converters = .standard library) {explicit : Option String}
    {typeName : String} (resolved : frame.mapping.converters.resolve frame.mapping.metadata explicit
      (frame.mapping.fieldType typeName) = .ok none) :
    frame.mapping.metadata.isEnum typeName = false := by
  cases explicit with
  | none =>
    have unconverted : frame.mapping.converters.forType? (frame.mapping.fieldType typeName) = none :=
      Except.ok.inj resolved
    rw [← DefaultConverters.isSome_forType?_standard library, ← standard, unconverted,
      Option.isSome_none]
  | some name =>
    simp only [DefaultConverters.resolve] at resolved
    split at resolved <;> cases resolved

/-- A column whose sources set no literal has the SQL type of what it stores. -/
theorem BuildsLeaf.typesCorrespond {library : QueryLibrary}
    (standard : frame.mapping.converters = .standard library) {level root : ClassDeclaration}
    {leaf : LeafPath} {column : Column}
    (builds : frame.BuildsLeaf (levelFrame level root) leaf column)
    (unset : (ColumnOptions.firstOf (leaf.sources root level)).sqlType = none) :
    column.TypesCorrespond frame.mapping.types := by
  obtain ⟨path, shows, built⟩ := builds
  obtain ⟨strategy, converter, sql, _, converts, typed, rfl⟩ := build_eq_ok.mp built
  have same : path.field = leaf.field := by
    obtain ⟨parents, visited, _⟩ := shows
    cases visited
    rfl
  rw [same, optionsFor_eq_firstOf] at typed converts
  rw [show (ColumnOptions.firstOf (leaf.entries root level ++ [leaf.field.column])).sqlType = none
    from unset] at typed
  rw [Column.TypesCorrespond, same]
  cases converter with
  | some converter =>
    exact (DialectRouter.sqlType_congr (TypeKey.ofType_boxed converter.fromType)).mpr typed
  | none =>
    have named : frame.mapping.fieldType leaf.field.type = .named leaf.field.type := by
      rw [Mapping.fieldType, isEnum_of_resolve_none standard converts]
      rfl
    rw [named] at typed ⊢
    exact (DialectRouter.sqlType_congr (TypeKey.ofType_boxed leaf.field.type)).mpr typed

end ColumnFrame

/-- Over the standard default converters, each column of a table has an SQL type that its dialect
knows, and is built from a leaf path of its class; its descriptor pairs the class that it stores with
that type. If the sources of a leaf path that it is built from set no literal, this is the type that the
dialect has for the class. -/
theorem column_types_correspond (mapping : Mapping) (library : QueryLibrary)
    (standard : mapping.converters = .standard library) (decl : ClassDeclaration)
    (options : TableOptions) (parent : Scope) (table : Table)
    (built : mapping.buildIn decl options parent = .ok table) :
    ∃ placed, mapping.tableScope decl options parent = .ok placed ∧
      ∀ column ∈ table.columns,
        (∃ key, mapping.types.fieldType column.dataType.dialect column.dataType.sqlType =
          .ok key) ∧
        (∃ level ∈ lineage mapping.metadata decl options.inheritance,
          ∃ leaf, LeadsTo mapping.metadata level.fields leaf ∧
            (mapping.columnFrame parent placed).BuildsLeaf (levelFrame level decl) leaf column) ∧
        (∀ writer : QueryLibrary, column.DescribedFor writer) ∧
        ∀ level leaf,
          (mapping.columnFrame parent placed).BuildsLeaf (levelFrame level decl) leaf column →
          (ColumnOptions.firstOf (leaf.sources decl level)).sqlType = none →
            column.TypesCorrespond mapping.types := by
  obtain ⟨placed, found, _, leaves⟩ := Mapping.buildIn_buildsLeaf built
  refine ⟨placed, found, fun column member => ⟨?_, leaves column member, column.describedFor,
    fun level leaf builds unset => builds.typesCorrespond standard unset⟩⟩
  obtain ⟨level, _, leaf, _, path, _, single⟩ := leaves column member
  obtain ⟨_, _, _, _, _, typed, rfl⟩ := ColumnFrame.build_eq_ok.mp single
  exact ColumnFrame.exists_fieldType typed

/-- An invoice with an amount that a converter stores, a number, a remark of a length of its own and a
state. -/
def invoiceClass : ClassDeclaration where
  name := "bill.Invoice"
  table := some {}
  fields := [
    { name := "amount", type := "bill.Money", column := some { converter := some "bill.Cents" } },
    { name := "number", type := "long" },
    { name := "remark", type := "java.lang.String",
      column := some { sqlType := some "varchar(80)" } },
    { name := "state", type := "bill.State" }]

def invoiceClasses : Metadata where
  classes := [invoiceClass, { name := "bill.State", kind := .enumeration, constants := ["OPEN"] }]
  converters := [("bill.Cents", { fromType := "int", toType := "bill.Money" })]

/-- The descriptors of an invoice's columns, the remark's apart, pair classes with their types. -/
theorem invoiceClass_types_correspond :
    ∃ table, (Mapping.ofMetadata invoiceClasses).buildIn invoiceClass {} {} = .ok table ∧
      (table.columns.map fun column => column.dataType.reference .jooq) = [
        "new org.jooq.impl.DefaultDataType(org.jooq.SQLDialect.DEFAULT, java.lang.Integer.class, \"integer\")",
        "new org.jooq.impl.DefaultDataType(org.jooq.SQLDialect.DEFAULT, java.lang.Long.class, \"bigint\")",
        "new org.jooq.impl.DefaultDataType(org.jooq.SQLDialect.DEFAULT, java.lang.String.class, \"varchar(80)\")",
        "new org.jooq.impl.DefaultDataType(org.jooq.SQLDialect.DEFAULT, java.lang.String.class, \"varchar\")"] ∧
      ∃ placed, (Mapping.ofMetadata invoiceClasses).tableScope invoiceClass {} {} = .ok placed ∧
        ∀ column ∈ table.columns,
          (∃ key, DialectRouter.standard.fieldType column.dataType.dialect
            column.dataType.sqlType = .ok key) ∧
          column.DescribedFor .jooq ∧
          ∃ level, ∃ leaf,
            ((Mapping.ofMetadata invoiceClasses).columnFrame {} placed).BuildsLeaf
              (levelFrame level invoiceClass) leaf column ∧
            ((ColumnOptions.firstOf (leaf.sources invoiceClass level)).sqlType = none →
              column.TypesCorrespond .standard) := by
  obtain ⟨table, built, listed⟩ := Mapping.exists_table_of_columnsIn
    (show ((Mapping.ofMetadata invoiceClasses).columnsIn invoiceClass {} {}).toOption.any
        (fun columns => decide (columns.Pairwise fun a b => a.name ≤ b.name) &&
          (columns.map fun column => column.dataType.reference .jooq) == [
            "new org.jooq.impl.DefaultDataType(org.jooq.SQLDialect.DEFAULT, java.lang.Integer.class, \"integer\")",
            "new org.jooq.impl.DefaultDataType(org.jooq.SQLDialect.DEFAULT, java.lang.Long.class, \"bigint\")",
            "new org.jooq.impl.DefaultDataType(org.jooq.SQLDialect.DEFAULT, java.lang.String.class, \"varchar(80)\")",
            "new org.jooq.impl.DefaultDataType(org.jooq.SQLDialect.DEFAULT, java.lang.String.class, \"varchar\")"]) = true by
      decide +kernel)
  obtain ⟨placed, found, columns⟩ := column_types_correspond (.ofMetadata invoiceClasses) .jooq rfl
    invoiceClass {} {} table built
  refine ⟨table, built, beq_iff_eq.mp listed, placed, found, fun column member => ?_⟩
  obtain ⟨known, ⟨level, _, leaf, _, builds⟩, described, pairs⟩ := columns column member
  exact ⟨known, described .jooq, level, leaf, builds, pairs level leaf builds⟩

end EntityMapper
