import EntityMapper.Proofs.Extraction.Converters
import EntityMapper.Proofs.Manifest.Types
import EntityMapper.Proofs.Mapper.Layout
import EntityMapper.Proofs.Mapper.References
import EntityMapper.Proofs.Walk.Levels

/-!
# Types that mapper classes refer to

The members of a mapper class refer to the entity class, the classes of embedded objects, the record type
of the query library, and converters with the types they convert between
(`MapperPart.mem_typeNames_members`). For a table of a valid manifest the elements of these are primitives
or class names, unless a declared type has a reserved word for a class (`type_names`).
-/
namespace EntityMapper

open Locator (elementType)

namespace Java

mutual

/-- The names of the elements of a type and of its arguments. -/
def TypeRef.typeNames : TypeRef → List String
  | .of name arguments _ => name :: typeNamesAmong arguments

def TypeRef.typeNamesAmong : List TypeRef → List String
  | [] => []
  | type :: rest => type.typeNames ++ typeNamesAmong rest

end

mutual

/-- The names of the types that an expression refers to. -/
def Expr.typeNames : Expr → List String
  | .name _ => []
  | .text _ => []
  | .classLiteral type => type.typeNames
  | .access object _ => object.typeNames
  | .call none _ arguments => typeNamesAmong arguments
  | .call (some object) _ arguments => object.typeNames ++ typeNamesAmong arguments
  | .new type arguments => type.typeNames ++ typeNamesAmong arguments

def Expr.typeNamesAmong : List Expr → List String
  | [] => []
  | argument :: rest => argument.typeNames ++ typeNamesAmong rest

end

def declarationTypeNames (type : TypeRef) (initial : Option Expr) : List String :=
  type.typeNames ++ initial.elim [] Expr.typeNames

def MethodHead.typeNames (head : MethodHead) : List String :=
  head.returns.elim [] TypeRef.typeNames ++ head.parameters.flatMap (·.type.typeNames)

mutual

/-- The names of the types that a syntax element refers to, at every depth. -/
def Element.typeNames : Element → List String
  | .typeRef type => type.typeNames
  | .expr value => value.typeNames
  | .parameter received => received.type.typeNames
  | .result value => value.elim [] Expr.typeNames
  | .statement inner => inner.typeNames
  | .localVar type _ initial => declarationTypeNames type initial
  | .field member => declarationTypeNames member.type member.initial
  | .method head body => head.typeNames ++ typeNamesAmong body
  | .classBody _ members => typeNamesAmong members

def Element.typeNamesAmong : List Element → List String
  | [] => []
  | element :: rest => element.typeNames ++ typeNamesAmong rest

end

theorem Element.typeNamesAmong_eq (elements : List Element) :
    typeNamesAmong elements = elements.flatMap typeNames := by
  induction elements with
  | nil => rfl
  | cons element rest ih => rw [typeNamesAmong, ih, List.flatMap_cons]

theorem Expr.typeNamesAmong_eq (arguments : List Expr) :
    typeNamesAmong arguments = arguments.flatMap typeNames := by
  induction arguments with
  | nil => rfl
  | cons argument rest ih => rw [typeNamesAmong, ih, List.flatMap_cons]

namespace TypeRef

/-- Reading a type takes off the brackets that its element lacks. -/
theorem stripDimensions_fst (cs : List Char) : (stripDimensions cs).1 = elementType.go cs := by
  fun_induction stripDimensions cs with
  | case1 rest name dimensions stripped ih =>
    rw [stripped] at ih
    exact ih
  | case2 name bare => rw [elementType.go]; exact bare

theorem typeNames_parse (text : String) (arguments : List TypeRef) :
    (parse text arguments).typeNames = elementType text :: typeNamesAmong arguments := by
  rw [parse, typeNames, stripDimensions_fst, elementType]

@[simp] theorem typeNames_named (text : String) : (named text).typeNames = [elementType text] :=
  typeNames_parse text []

end TypeRef

end Java

open Java (Element Expr)

/-- The names of the types that the constant of a converter refers to. -/
def Converter.typeNames (converter : Converter) : List String :=
  elementType converter.converterType ::
    if converter.generic then
      [elementType (Java.boxed converter.fromType), elementType (Java.boxed converter.toType)]
    else []

theorem MapperContext.typeNames_columnArguments (context : MapperContext) (table : Table)
    (column : Column) (value : Option Expr) (untyped : ∀ e ∈ value, e.typeNames = []) :
    Expr.typeNamesAmong (context.columnArguments table column value) = [] := by
  have given : value.toList.flatMap Expr.typeNames = [] := by
    rw [List.flatMap_eq_nil_iff]
    exact fun e member => untyped e (Option.mem_toList.mp member)
  rw [columnArguments_eq, Expr.typeNamesAmong_eq, List.flatMap_cons, List.flatMap_append, given]
  cases context.constant? table column <;> simp [columnReference, Expr.typeNames]

namespace ToEntity

/-- Only declarations refer to types. -/
theorem mem_typeNames_element {context : MapperContext} {table : Table} {action : Action} {name : String}
    (member : name ∈ (action.element context table).typeNames) :
    ∃ varName typeName, action = .create varName typeName ∧ name = elementType typeName := by
  cases action with
  | create varName typeName =>
    refine ⟨varName, typeName, rfl, ?_⟩
    simpa [Action.element, declareNew, Element.typeNames, Java.declarationTypeNames, Expr.typeNames,
      Expr.typeNamesAmong] using member
  | fetch owner column =>
    have none := context.typeNames_columnArguments table column none (by simp)
    simp [Action.element, readColumn, Expr.send, Element.typeNames, Expr.typeNames,
      Expr.typeNamesAmong, none] at member
  | attach owner field =>
    simp [Action.element, attach, Expr.send, Element.typeNames, Expr.typeNames,
      Expr.typeNamesAmong] at member

/-- A build declares variables of the types of its fields. -/
theorem typeName_of_mem_buildScript {objects : List EmbeddedObject} {varName typeName : String}
    (member : .create varName typeName ∈ buildScript objects) :
    ∃ field ∈ EmbeddedObject.fields objects, field.typeName = typeName := by
  induction objects using buildScript.induct with
  | case1 => simp [buildScript] at member
  | case2 field columns inner rest ihInner ihRest =>
    rw [buildScript, List.mem_append, List.mem_append] at member
    rw [EmbeddedObject.fields]
    rcases member with (inside | own) | beside
    · obtain ⟨within, among, named⟩ := ihInner inside
      exact ⟨within, List.mem_cons_of_mem _ (List.mem_append_left _ among), named⟩
    · refine ⟨field, List.mem_cons_self, ?_⟩
      have declares : varName = field.varName ∧ typeName = field.typeName := by
        simpa [ownActions] using own
      exact declares.2.symm
    · obtain ⟨within, among, named⟩ := ihRest beside
      exact ⟨within, List.mem_cons_of_mem _ (List.mem_append_right _ among), named⟩

/-- The script of a table declares variables of its class and of the types of embedded fields. -/
theorem typeName_of_mem_entityScript {table : Table} {varName typeName : String}
    (member : .create varName typeName ∈ entityScript table) :
    typeName = table.className ∨
      ∃ column ∈ table.columns, ∃ field ∈ column.parents, field.typeName = typeName := by
  have outermost := flatMap_buildScript_perm (EmbeddedObject.ofColumns table.embeddedColumns)
  simp only [entityScript, List.cons_append, List.mem_cons, List.mem_append, outermost.mem_iff] at member
  rcases member with own | fetched | built | attached
  · cases own
    exact .inl rfl
  · simp at fetched
  · obtain ⟨field, inside, named⟩ := typeName_of_mem_buildScript built
    obtain ⟨column, among, parent⟩ := EmbeddedObject.exists_parent_of_mem_fields inside
    exact .inr ⟨column, List.mem_of_mem_filter among, field, parent, named⟩
  · simp at attached

theorem mem_typeNames_method {context : MapperContext} {table : Table} {name : String}
    (member : name ∈ (method context table).typeNames) :
    name ∈ (localTypes context table).map elementType := by
  rw [localTypes, List.map_cons, List.map_cons]
  simp only [method, Element.typeNames, Java.MethodHead.typeNames, Element.typeNamesAmong_eq, body_eq,
    Option.elim_some, Java.TypeRef.typeNames_named, List.flatMap_cons, List.flatMap_nil,
    List.flatMap_append, List.flatMap_map, Expr.typeNames, List.append_nil, List.mem_append,
    List.mem_singleton] at member
  rcases member with (own | record) | declared
  · exact own ▸ List.mem_cons_self
  · exact record ▸ List.mem_cons_of_mem _ List.mem_cons_self
  · obtain ⟨action, inScript, among⟩ := List.mem_flatMap.mp declared
    obtain ⟨varName, typeName, rfl, rfl⟩ := mem_typeNames_element among
    rcases typeName_of_mem_entityScript inScript with rfl | ⟨column, inTable, field, parent, rfl⟩
    · exact List.mem_cons_self
    · refine List.mem_cons_of_mem _ (List.mem_cons_of_mem _ (List.mem_map_of_mem ?_))
      exact List.mem_flatMap.mpr ⟨column, inTable, List.mem_map_of_mem parent⟩

end ToEntity

/-- The method that writes records declares the record alone. -/
theorem ToRecord.mem_typeNames_method {context : MapperContext} {table : Table} {name : String}
    (member : name ∈ (method context table).typeNames) :
    name ∈ (localTypes context table).map elementType := by
  have stored (column : Column) : (storeColumn context table column).typeNames = [] := by
    let value : Expr := .send (.name ToEntity.entityVariable) column.getter []
    have untyped : ∀ e ∈ some value, e.typeNames = [] := by
      simp [value, Expr.send, Expr.typeNames, Expr.typeNamesAmong]
    rw [storeColumn, Element.typeNames, Expr.send, Expr.typeNames, Expr.typeNames,
      context.typeNames_columnArguments table column _ untyped, List.append_nil]
  have same : name = elementType context.library.recordType ∨ name = elementType table.className := by
    simpa [method, body, Element.typeNames, Java.MethodHead.typeNames, Element.typeNamesAmong_eq,
      Java.declarationTypeNames, Expr.send, Expr.typeNames, Expr.typeNamesAmong, List.flatMap_map,
      stored, or_comm, or_assoc] using member
  rcases same with rfl | rfl
  · exact List.mem_map_of_mem (List.mem_cons_of_mem _ List.mem_cons_self)
  · exact List.mem_map_of_mem List.mem_cons_self

namespace MapperPart

/-- The members of a mapper class: a constant for each converter, and the two methods. -/
def members (context : MapperContext) (table : Table) : List Element :=
  (converterFields context table).map .field
    ++ [ToEntity.method context table, ToRecord.method context table]

/-- The parts of a mapper class write its members. -/
theorem layout_standard (context : MapperContext) (table : Table) :
    standard.flatMap (·.layout context table) =
      if table.mappingEnabled then (members context table).flatMap (·.layout) else [] := by
  by_cases enabled : table.mappingEnabled = true <;>
    simp [standard, converters, toEntity, toRecord, whenMapped, members, converterFields, enabled,
      List.flatMap_map, Element.layout]

theorem mem_typeNames_converterField {context : MapperContext} {table : Table} {converter : Converter}
    {name : String} :
    name ∈ (Element.field (converterField context table converter)).typeNames ↔
      name ∈ converter.typeNames := by
  rw [Converter.typeNames, converterField]
  split
  · simp only [Element.typeNames, Java.declarationTypeNames, Java.FieldMember.constant, Expr.typeNames,
      Expr.typeNamesAmong, Java.TypeRef.typeNames_parse, Java.TypeRef.typeNamesAmong,
      Java.TypeRef.typeNames_named, Option.elim_some, List.mem_append, List.mem_cons, List.not_mem_nil]
    generalize elementType converter.converterType = type
    generalize elementType (Java.boxed converter.fromType) = source
    generalize elementType (Java.boxed converter.toType) = target
    tauto
  · simp [Element.typeNames, Java.declarationTypeNames, Java.FieldMember.constant, Expr.typeNames,
      Expr.typeNamesAmong]

theorem mem_typeNames_members {context : MapperContext} {table : Table} {name : String}
    (member : name ∈ (members context table).flatMap Element.typeNames) :
    name ∈ (localTypes context table).map elementType ∨
      ∃ converter ∈ table.converters, name ∈ converter.typeNames := by
  simp only [members, converterFields, List.flatMap_append, List.flatMap_map, List.flatMap_cons,
    List.flatMap_nil, List.append_nil, List.mem_append, List.mem_flatMap] at member
  rcases member with ⟨converter, among, named⟩ | entity | record
  · exact .inr ⟨converter, among, mem_typeNames_converterField.mp named⟩
  · exact .inl (ToEntity.mem_typeNames_method entity)
  · exact .inl (ToRecord.mem_typeNames_method record)

end MapperPart

namespace Mapping

/-- Around a column of a table are fields of declared classes, and it is of the type of a field that a
class declares. -/
theorem buildIn_types {mapping : Mapping} {decl : ClassDeclaration} {options : TableOptions}
    {parent : Scope} {table : Table} (declared : decl ∈ mapping.metadata.classes)
    (built : mapping.buildIn decl options parent = .ok table) {column : Column}
    (member : column ∈ table.columns) :
    (∀ field ∈ column.parents, ∃ other ∈ mapping.metadata.classes, other.name = field.typeName) ∧
      ∃ other ∈ mapping.metadata.classes, ∃ field ∈ other.fields,
        field.type = column.dataType.fieldType.name := by
  obtain ⟨placed, _, _, builds⟩ := buildIn_buildsLeaf built
  obtain ⟨level, inLineage, leaf, leads, made⟩ := builds column member
  constructor
  · intro field around
    have paired : (field.fieldName, field.typeName) ∈
        leaf.around.map fun field => (field.name, field.type) := by
      rw [← made.stores.parents]
      exact List.mem_map_of_mem around
    obtain ⟨outer, inAround, same⟩ := List.mem_map.mp paired
    rw [← (Prod.mk.inj same).2]
    exact leads.around_declared outer inAround
  · obtain ⟨other, inClasses, inFields⟩ := (leads.forall_mem
      (p := fun field => ∃ other ∈ mapping.metadata.classes, field ∈ other.fields)
      (fun other inClasses _ inFields => ⟨other, inClasses, inFields⟩)
      fun _ inFields => ⟨level, mem_lineage declared inLineage, inFields⟩).1
    obtain ⟨path, ⟨_, visited, _⟩, single⟩ := made
    obtain ⟨_, _, _, _, _, _, rfl⟩ := ColumnFrame.build_eq_ok.mp single
    cases visited
    exact ⟨other, inClasses, leaf.field, inFields, (fieldType_name _ _).symm⟩

end Mapping

theorem Metadata.exists_of_isEnum {metadata : Metadata} {name : String}
    (enum : metadata.isEnum name = true) : ∃ decl ∈ metadata.classes, decl.name = name := by
  rw [isEnum] at enum
  cases found : metadata.class? name with
  | none =>
    rw [found] at enum
    cases enum
  | some decl => exact ⟨decl, class?_mem found⟩

namespace Manifest.WellFormed

variable {manifest : Manifest} (valid : manifest.WellFormed)

include valid

theorem accountsFor_className {name : String}
    (declared : ∃ decl ∈ manifest.classes, decl.name = name) :
    manifest.AccountsFor (elementType name) := by
  obtain ⟨decl, member, rfl⟩ := declared
  exact accountsFor_elementType (valid.names decl member)

/-- A declared converter has a class name and converts between declared types; that of an enum is the
query library's and converts texts. -/
theorem accountsFor_converter {converter : Converter}
    (known : manifest.metadata.Declares converter ∨ manifest.metadata.IsEnumDefault .jooq converter) :
    manifest.AccountsFor (elementType converter.converterType) ∧
      manifest.AccountsFor (elementType (Java.boxed converter.fromType)) ∧
      manifest.AccountsFor (elementType (Java.boxed converter.toType)) := by
  rcases known with declares | ⟨enum, isEnum, rfl⟩
  · have declared := Entries.mem_of_get? declares
    exact ⟨accountsFor_elementType (valid.converters _ declared).name,
      valid.accountsFor_boxed (fromType_mem_declaredTypes declared),
      valid.accountsFor_boxed (toType_mem_declaredTypes declared)⟩
  · have library : ∀ name ∈ [QueryLibrary.jooq.enumConverter, Java.boxed "java.lang.String"],
        Java.isQualifiedName name = true ∧
          ∀ part ∈ Text.segments '.' name, Java.isReserved part = false := by decide
    have named (name : String) (member : name ∈ [QueryLibrary.jooq.enumConverter,
        Java.boxed "java.lang.String"]) : manifest.AccountsFor (elementType name) :=
      accountsFor_elementType (Java.isClassName_iff.mpr (library name member))
    refine ⟨named _ (by simp [QueryLibrary.enumDefault]), named _ (by simp [QueryLibrary.enumDefault]),
      ?_⟩
    obtain ⟨decl, member, same⟩ := Metadata.exists_of_isEnum isEnum
    have own : Java.IsClassName enum := same ▸ valid.names decl member
    rw [QueryLibrary.enumDefault, own.boxed, own.boxed]
    exact accountsFor_elementType own

/-- What the mapper of a table refers to can be the element of a type, or borrows a reserved word as a
declared type does; and so does what the columns store. -/
theorem accountsFor_table {tables : List Table}
    (built : (Mapping.ofManifest manifest).tables = .ok tables) {table : Table} (member : table ∈ tables)
    (strategy : NamingStrategy) :
    (∀ name ∈ (MapperPart.members { strategy := strategy } table).flatMap Element.typeNames,
      manifest.AccountsFor name) ∧
    ∀ column ∈ table.columns, manifest.AccountsFor (elementType column.dataType.storedType) := by
  obtain ⟨base, _, built⟩ := bind_eq_ok.mp built
  obtain ⟨decl, declared, options, _, made⟩ := Mapping.exists_of_mem_tables built member
  have types {column : Column} (inTable : column ∈ table.columns) :=
    Mapping.buildIn_types declared made inTable
  have converts {column : Column} (inTable : column ∈ table.columns) {converter : Converter}
      (has : column.converter = some converter) :=
    valid.accountsFor_converter (Mapping.buildIn_converter rfl made inTable has)
  constructor
  · intro name among
    rcases MapperPart.mem_typeNames_members among with isLocal | ⟨converter, inTable, named⟩
    · rw [localTypes, List.map_cons, List.map_cons, List.mem_cons, List.mem_cons] at isLocal
      rcases isLocal with rfl | rfl | inside
      · exact valid.accountsFor_className ⟨decl, declared, (Mapping.buildIn_className made).symm⟩
      · exact accountsFor_elementType (show Java.IsClassName QueryLibrary.jooq.recordType from
          Java.isClassName_iff.mpr (by decide))
      · obtain ⟨type, ofParents, rfl⟩ := List.mem_map.mp inside
        obtain ⟨column, inTable, isParent⟩ := List.mem_flatMap.mp ofParents
        obtain ⟨field, around, rfl⟩ := List.mem_map.mp isParent
        exact valid.accountsFor_className ((types inTable).1 field around)
    · obtain ⟨column, inColumns, has⟩ := table.exists_column_of_mem_converters inTable
      obtain ⟨type, source, target⟩ := converts inColumns has
      rw [Converter.typeNames] at named
      rcases List.mem_cons.mp named with rfl | others
      · exact type
      · split at others
        · rw [List.mem_cons, List.mem_singleton] at others
          rcases others with rfl | rfl
          · exact source
          · exact target
        · cases others
  · intro column inTable
    rw [DataType.storedType]
    split
    · rename_i converter has
      exact (converts inTable has).2.1
    · obtain ⟨other, inClasses, field, inFields, typed⟩ := (types inTable).2
      rw [FieldType.boxed, ← typed]
      exact valid.accountsFor_boxed (type_mem_declaredTypes inClasses inFields)

end Manifest.WellFormed

open MapperPart (members) in
/-- A type is accepted where its element is a primitive or accepted as a class name, unless the element
borrows a reserved word. The mapper classes of a valid manifest refer to primitives and classes, and their
columns store such, unless a declared type is one that borrows a reserved word. -/
theorem declared_types_name_classes (locator : Locator) (type kind : String) :
    ((locator.checkType type kind = .ok () ↔
        Java.isPrimitive (elementType type) = true ∨
          locator.checkQualifiedName (elementType type) kind = .ok ()) ↔
      ¬ Java.BorrowsReserved (elementType type)) ∧
    ∀ (manifest : Manifest) (source file : String) (tables : List Table),
      manifest.validate source file = .ok () → (Mapping.ofManifest manifest).tables = .ok tables →
        ∀ table ∈ tables, ∀ strategy : NamingStrategy,
          let context : MapperContext := { strategy := strategy }
          MapperPart.standard.flatMap (·.layout context table) =
            (if table.mappingEnabled then (members context table).flatMap (·.layout) else []) ∧
          (∀ name ∈ (members context table).flatMap Element.typeNames, manifest.AccountsFor name) ∧
          ∀ column ∈ table.columns, manifest.AccountsFor (elementType column.dataType.storedType) := by
  refine ⟨Locator.checkType_agrees_iff, ?_⟩
  intro manifest source file tables valid built table member strategy
  exact ⟨MapperPart.layout_standard _ table,
    (Manifest.validate_eq_ok.mp valid).accountsFor_table built member strategy⟩

/-- A purse with an owner of a type of its own and a sum of money. -/
def purseClass (owner : String) : ClassDeclaration where
  name := "bank.Purse"
  table := some {}
  fields := [
    { name := "owner", type := owner, column := some { sqlType := some "varchar" } },
    { name := "sum", type := "sum.Money",
      column := some { converter := some "fx.Rate", sqlType := some "varchar" } }]

/-- The purse, with a generic converter of its sum from the given type. -/
def purseManifest (owner source : String) : Manifest where
  converters := [("fx.Rate", { fromType := source, toType := "sum.Money", generic := true })]
  classes := [purseClass owner]

/-- The tables of a purse, as far as they are seen on its columns. -/
theorem purseManifest_tables (owner source : String)
    (shown : ((Mapping.ofManifest (purseManifest owner source)).columnsOf
      (purseClass owner) {}).toOption.any (fun columns =>
        columns.map (·.name) == ["owner", "sum"] &&
          columns.map (·.dataType.storedType) == [owner, source] &&
          Converter.distinct (columns.filterMap (·.converter)).reverse ==
            [⟨"fx.Rate", source, "sum.Money", true⟩]) = true) :
    ∃ table, (Mapping.ofManifest (purseManifest owner source)).tables = .ok [table] ∧
      table.mappingEnabled = true ∧
      table.columns.map (·.dataType.storedType) = [owner, source] ∧
      table.converters = [⟨"fx.Rate", source, "sum.Money", true⟩] := by
  obtain ⟨columns, made, shown⟩ := exists_ok_and shown
  simp only [Bool.and_eq_true, beq_iff_eq] at shown
  obtain ⟨⟨names, stored⟩, converters⟩ := shown
  have ascending : columns.Pairwise fun a b => a.name ≤ b.name :=
    List.pairwise_map.mp (names ▸ by decide +kernel)
  obtain ⟨table, built, rfl, enabled⟩ := Mapping.tables_of_columnsOf rfl rfl (by decide) made ascending
  exact ⟨table, built, enabled, stored, converters⟩

open MapperPart (members) in
/-- An array of numbers is accepted as its element is, and where the sum is stored as a number, the mapper
of the purse refers to primitives and classes only. -/
theorem purse_names_classes :
    let locator : Locator := { source := "", file := "purse.toml" }
    ¬ Java.BorrowsReserved (elementType "long[]") ∧ locator.checkType "long[]" "field type" = .ok () ∧
      ∃ table, (purseManifest "bank.Person" "java.lang.Long").validate "" "purse.toml" = .ok () ∧
        (Mapping.ofManifest (purseManifest "bank.Person" "java.lang.Long")).tables = .ok [table] ∧
        table.converters.length = 1 ∧
        ∀ name ∈ (members {} table).flatMap Element.typeNames, Java.IsElementName name := by
  intro locator
  obtain ⟨table, built, _, _, converters⟩ :=
    purseManifest_tables "bank.Person" "java.lang.Long" (by decide +kernel)
  have valid : (purseManifest "bank.Person" "java.lang.Long").validate "" "purse.toml" = .ok () := by
    decide +kernel
  have own : ¬ Java.BorrowsReserved (elementType "long[]") := by decide
  obtain ⟨accepted, emitted⟩ := declared_types_name_classes locator "long[]" "field type"
  refine ⟨own, (accepted.mpr own).mpr (.inl (by decide)), table, valid, built, by rw [converters]; rfl,
    fun name member => ?_⟩
  obtain ⟨_, accounts, _⟩ :=
    emitted _ _ _ _ valid built table List.mem_cons_self LetterCase.lower.snake
  exact (accounts name member).isElementName (by decide)

open MapperPart (members) in
/-- A reserved word is accepted as a type, alone or as a part, and mappers refer to it as to a class. -/
theorem reserved_type_accepted :
    let locator : Locator := { source := "", file := "purse.toml" }
    locator.checkType "new" "field type" = .ok () ∧
      Java.isPrimitive (elementType "new") = false ∧
      locator.checkQualifiedName (elementType "new") "field type" ≠ .ok () ∧
      ∃ table, (purseManifest "com.new.Person[]" "new").validate "" "purse.toml" = .ok () ∧
        (Mapping.ofManifest (purseManifest "com.new.Person[]" "new")).tables = .ok [table] ∧
        table.mappingEnabled = true ∧
        "new" ∈ (members {} table).flatMap Element.typeNames ∧
        table.columns.map (·.dataType.storedType) = ["com.new.Person[]", "new"] := by
  intro locator
  obtain ⟨table, built, enabled, stored, converters⟩ :=
    purseManifest_tables "com.new.Person[]" "new" (by decide +kernel)
  refine ⟨by decide, by decide, by decide, table, by decide +kernel, built, enabled, ?_, stored⟩
  let rate : Converter := ⟨"fx.Rate", "new", "sum.Money", true⟩
  have kept : rate ∈ table.converters := converters ▸ List.mem_cons_self
  refine List.mem_flatMap.mpr ⟨.field (MapperPart.converterField {} table rate), ?_,
    MapperPart.mem_typeNames_converterField.mpr (by decide)⟩
  exact List.mem_append_left _ (List.mem_map_of_mem (List.mem_map_of_mem kept))

end EntityMapper
