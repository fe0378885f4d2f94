import EntityMapper.Mapper.File
import EntityMapper.Proofs.Java.Layout
import EntityMapper.Proofs.Java.Name
import EntityMapper.Proofs.Mapper.Assembly
import EntityMapper.Proofs.Mapper.Chain
import EntityMapper.Proofs.Mapper.Converters
import EntityMapper.Proofs.Naming.Constants

/-!
# Layout of mapper files

Where names hold neither braces nor white space, every member of a mapper class is laid out at the level
of the class body (`SolidNames.isLaidOut_standard`). Members that are, joined by empty lines and set
between the head and the closing brace, make up the file (`MapperFile.exists_render_eq`).
-/
namespace EntityMapper

open Source

namespace EmbeddedObject

/-- The fields that the objects stand for, at every depth. -/
def fields : List EmbeddedObject → List Embedding
  | [] => []
  | .of field _ inner :: rest => field :: (fields inner ++ fields rest)

theorem fields_append (first second : List EmbeddedObject) :
    fields (first ++ second) = fields first ++ fields second := by
  induction first with
  | nil => simp [fields]
  | cons object rest ih =>
    obtain ⟨field, columns, inner⟩ := object
    simp [fields, ih]

theorem field_mem_fields {objects : List EmbeddedObject} {object : EmbeddedObject}
    (member : object ∈ objects) : object.field ∈ fields objects := by
  obtain ⟨before, after, rfl⟩ := List.append_of_mem member
  obtain ⟨field, columns, inner⟩ := object
  rw [fields_append, fields]
  exact List.mem_append_right _ List.mem_cons_self

/-- An insertion adds no other fields than the parents of its column. -/
theorem mem_fields_of_insert {column : Column} {parents : List Embedding}
    {objects : List EmbeddedObject} {field : Embedding}
    (member : field ∈ fields (insert column parents objects)) :
    field ∈ parents ∨ field ∈ fields objects := by
  induction parents generalizing objects with
  | nil => exact .inr member
  | cons parent below ih =>
    obtain ⟨before, object, after, _, found, updated⟩ :=
      update_eq parent (receive column below) objects
    obtain ⟨own, columns, inner⟩ := object
    rw [insert_cons, updated, receive, fields_append, fields, List.mem_append, List.mem_cons,
      List.mem_append] at member
    rcases found with rfl | ⟨new, rfl, rfl, _⟩
    · rw [fields_append, fields]
      grind
    · cases new
      grind [fields]

theorem exists_parent_of_mem_fields {columns : List Column} {field : Embedding}
    (member : field ∈ fields (ofColumns columns)) : ∃ column ∈ columns, field ∈ column.parents := by
  have grown (columns : List Column) (objects : List EmbeddedObject)
      (inside : field ∈ fields (columns.foldl (fun objects column =>
        insert column column.parents objects) objects)) :
      (∃ column ∈ columns, field ∈ column.parents) ∨ field ∈ fields objects := by
    induction columns generalizing objects with
    | nil => exact .inr inside
    | cons column rest ih =>
      rcases ih _ inside with ⟨other, later, found⟩ | here
      · exact .inl ⟨other, List.mem_cons_of_mem _ later, found⟩
      · exact (mem_fields_of_insert here).imp_left fun found => ⟨column, List.mem_cons_self, found⟩
  rcases grown columns [] member with found | none
  · exact found
  · simp [fields] at none

end EmbeddedObject

/-- No name holds a brace or white space, and each that is there holds something. -/
structure SolidNames (file : MapperFile) (context : MapperContext) (table : Table) : Prop where
  package : ∀ package ∈ file.package, Unbroken package
  tablesClass : Solid file.tablesClass
  tableName : Solid table.name
  className : Solid table.className
  columns : ∀ column ∈ table.columns, Solid column.name ∧ Solid column.fieldName
  parents : ∀ column ∈ table.columns, ∀ field ∈ column.parents,
    Solid field.fieldName ∧ Solid field.typeName ∧ Solid field.varName
  converters : ∀ column ∈ table.columns, ∀ converter ∈ column.converter,
    Solid converter.converterType ∧ Solid converter.fromType ∧ Solid converter.toType ∧
      Solid (context.converterConstant table converter)
  recordType : Solid context.library.recordType
  newRecord : Solid context.library.newRecord
  setValue : Solid context.library.setValue
  getValue : Solid context.library.getValue
  toEntity : Solid context.library.toEntity
  toRecord : Solid context.library.toRecord

/-- The types of the local variables that mapper methods declare. -/
def localTypes (context : MapperContext) (table : Table) : List String :=
  table.className :: context.library.recordType ::
    table.columns.flatMap fun column => column.parents.map (·.typeName)

theorem plain_constantName {name : String} (plain : Plain name) : Plain (constantName name) := by
  intro d member
  rw [constantName_eq, String.toList_ofList] at member
  rcases LetterCase.mem_words member with rfl | ⟨c, inName, mapped⟩
  · decide
  · exact plain.upperCase inName mapped

theorem isStatement_declareNew {type varName : String} (solid : Solid type)
    (written : type ≠ "java.lang.") (named : Plain varName) :
    (ToEntity.declareNew (.named type) varName).IsStatement := by
  have text := (Java.TypeRef.unbroken_named solid.2).plain
  refine Java.Element.isStatement_localVar text (Java.TypeRef.begins_named solid written) named ?_
  rw [Java.allPlain_new]
  exact ⟨text, List.forall_mem_nil _⟩

namespace SolidNames

variable {file : MapperFile} {context : MapperContext} {table : Table}
  (names : SolidNames file context table)

include names

theorem allPlain_columnArguments {column : Column} (member : column ∈ table.columns)
    {value : Option Java.Expr} (plain : ∀ e ∈ value, AllPlain e.layout) :
    ∀ argument ∈ context.columnArguments table column value, AllPlain argument.layout := by
  have reference : AllPlain (MapperContext.columnReference table column).layout := by
    rw [MapperContext.columnReference, Java.allPlain_access, Java.allPlain_name]
    exact ⟨plain_constantName names.tableName.plain,
      plain_constantName (names.columns column member).1.plain⟩
  have constants := names.converters column member
  rw [MapperContext.columnArguments]
  intro argument passed
  rw [List.cons_append, List.mem_cons, List.mem_append, Option.mem_toList] at passed
  rcases passed with rfl | stored | constant
  · exact reference
  · exact plain argument stored
  · cases found : column.converter with
    | none => simp [found] at constant
    | some converter =>
      simp only [found, List.mem_singleton] at constant
      rw [constant, Java.allPlain_name]
      exact (constants converter found).2.2.2.plain

theorem isStatement_readColumn {owner : String} (solid : Solid owner) {column : Column}
    (member : column ∈ table.columns) :
    (ToEntity.readColumn context table owner column).IsStatement := by
  refine Java.Element.isStatement_send solid
    (Java.plain_setterName (names.columns column member).2.plain) ?_
  rw [List.forall_mem_singleton, Java.allPlain_send, Java.allPlain_name]
  exact ⟨by decide, names.getValue.plain, names.allPlain_columnArguments member (by simp)⟩

theorem isStatement_storeColumn {column : Column} (member : column ∈ table.columns) :
    (ToRecord.storeColumn context table column).IsStatement := by
  refine Java.Element.isStatement_send (by decide) names.setValue.plain ?_
  refine names.allPlain_columnArguments member fun value given => ?_
  obtain rfl := Option.mem_some.mp given
  rw [Java.allPlain_send, Java.allPlain_name]
  exact ⟨by decide, Java.plain_getterName (names.columns column member).2.plain, List.forall_mem_nil _⟩

theorem isStatement_attach {owner : String} (solid : Solid owner) {column : Column}
    (member : column ∈ table.columns) {field : Embedding} (parent : field ∈ column.parents) :
    (ToEntity.attach owner field).IsStatement := by
  obtain ⟨fieldName, _, varName⟩ := names.parents column member field parent
  refine Java.Element.isStatement_send solid (Java.plain_setterName fieldName.plain) ?_
  rw [List.forall_mem_singleton, Java.allPlain_name]
  exact varName.plain

/-- A build is a line for each action, if its fields and columns are those of the table. -/
theorem isStatement_buildScript (written : ∀ type ∈ localTypes context table, type ≠ "java.lang.")
    {objects : List EmbeddedObject}
    (fields : ∀ field ∈ EmbeddedObject.fields objects, ∃ column ∈ table.columns, field ∈ column.parents)
    (columns : ∀ column ∈ EmbeddedObject.allColumns objects, column ∈ table.columns) :
    ∀ action ∈ ToEntity.buildScript objects, (action.element context table).IsStatement := by
  induction objects using ToEntity.buildScript.induct with
  | case1 => simp [ToEntity.buildScript]
  | case2 field own inner rest ihInner ihRest =>
    simp only [EmbeddedObject.fields, EmbeddedObject.allColumns, List.forall_mem_cons,
      List.forall_mem_append] at fields columns
    obtain ⟨⟨column, inTable, parent⟩, inside, beside⟩ := fields
    obtain ⟨⟨ownColumns, innerColumns⟩, restColumns⟩ := columns
    obtain ⟨_, typeName, varName⟩ := names.parents column inTable field parent
    have made : field.typeName ∈ localTypes context table :=
      List.mem_cons_of_mem _ (List.mem_cons_of_mem _
        (List.mem_flatMap.mpr ⟨column, inTable, List.mem_map_of_mem parent⟩))
    rw [ToEntity.buildScript, ToEntity.ownActions]
    simp only [List.forall_mem_append, List.forall_mem_cons, List.forall_mem_map]
    refine ⟨⟨ihInner inside innerColumns, ⟨?_, fun column member => ?_⟩, fun object member => ?_⟩,
      ihRest beside restColumns⟩
    · exact isStatement_declareNew typeName (written _ made) varName.plain
    · exact names.isStatement_readColumn varName (ownColumns column member)
    · obtain ⟨other, inTable, parent⟩ := inside _ (EmbeddedObject.field_mem_fields member)
      exact names.isStatement_attach varName inTable parent

theorem isStatement_toEntity (written : ∀ type ∈ localTypes context table, type ≠ "java.lang.") :
    ∀ element ∈ ToEntity.body context table, element.IsStatement := by
  have fields : ∀ field ∈ EmbeddedObject.fields (EmbeddedObject.ofColumns table.embeddedColumns),
      ∃ column ∈ table.columns, field ∈ column.parents := by
    intro field member
    obtain ⟨column, inTable, parent⟩ := EmbeddedObject.exists_parent_of_mem_fields member
    exact ⟨column, List.mem_of_mem_filter inTable, parent⟩
  have grouped := EmbeddedObject.allColumns_ofColumns fun _ => table.parents_ne_nil
  have columns : ∀ column ∈ EmbeddedObject.allColumns (EmbeddedObject.ofColumns table.embeddedColumns),
      column ∈ table.columns := fun column member =>
    List.mem_of_mem_filter (grouped.mem_iff.mp member)
  have outermost := ToEntity.flatMap_buildScript_perm (EmbeddedObject.ofColumns table.embeddedColumns)
  rw [ToEntity.body_eq, ToEntity.entityScript]
  simp only [List.map_append, List.forall_mem_append, List.map_cons, List.map_map, List.forall_mem_cons,
    List.forall_mem_map, Function.comp_apply, outermost.mem_iff]
  refine ⟨⟨⟨?_, fun column member => ?_⟩, ?_, fun object member => ?_⟩, ?_, List.forall_mem_nil _⟩
  · exact isStatement_declareNew names.className (written _ List.mem_cons_self) (by decide)
  · exact names.isStatement_readColumn (by decide) (List.mem_of_mem_filter member)
  · exact names.isStatement_buildScript written fields columns
  · obtain ⟨column, inTable, parent⟩ := fields _ (EmbeddedObject.field_mem_fields member)
    exact names.isStatement_attach (by decide) inTable parent
  · refine Java.Element.isStatement_result ?_
    rw [Java.allPlain_name]
    decide

theorem isStatement_toRecord (written : ∀ type ∈ localTypes context table, type ≠ "java.lang.") :
    ∀ element ∈ ToRecord.body context table, element.IsStatement := by
  rw [ToRecord.body]
  simp only [List.forall_mem_append, List.forall_mem_cons, List.forall_mem_map]
  refine ⟨⟨?_, fun column member => ?_⟩, ?_, List.forall_mem_nil _⟩
  · refine Java.Element.isStatement_localVar (Java.TypeRef.unbroken_named names.recordType.2).plain
      (Java.TypeRef.begins_named names.recordType (written _ ?_)) (by decide) ?_
    · exact List.mem_cons_of_mem _ List.mem_cons_self
    · rw [Java.allPlain_send, Java.allPlain_name]
      exact ⟨plain_constantName names.tableName.plain, names.newRecord.plain, List.forall_mem_nil _⟩
  · exact names.isStatement_storeColumn (List.mem_of_mem_filter member)
  · refine Java.Element.isStatement_result ?_
    rw [Java.allPlain_name]
    decide

end SolidNames

/-- The part writes lines that are laid out in the class body, and leaves none of them empty. -/
def MapperPart.IsLaidOut (context : MapperContext) (table : Table) (part : MapperPart) : Prop :=
  ∃ lines, Lays (part.layout context table) 1 lines 1 ∧ "" ∉ lines

theorem MapperPart.isLaidOut_whenMapped {context : MapperContext} {table : Table} {name : String}
    {layout : MapperContext → Table → List Piece} {lines : List String}
    (laid : Lays (layout context table) 1 lines 1) (filled : "" ∉ lines) :
    (whenMapped name layout).IsLaidOut context table := by
  rw [IsLaidOut, whenMapped]
  dsimp only
  split
  · exact ⟨lines, laid, filled⟩
  · exact ⟨[], .nil 1, List.not_mem_nil⟩

theorem Java.plain_boxed {name : String} (plain : Plain name) : Plain (boxed name) := by
  have boxes : ∀ entry ∈ primitives, Plain entry.2 := by decide
  rcases boxed_eq_or_mem name with own | box
  · rwa [own]
  · exact boxes (name, boxed name) box

/-- A public method of one parameter is laid out in the class body, with no line empty. -/
theorem MapperPart.exists_lays_method {head : Java.MethodHead} {returns : Java.TypeRef}
    {parameter : Java.Parameter} {body : List Java.Element}
    (stated : head.visibility = .publicAccess) (given : head.returns = some returns)
    (received : head.parameters = [parameter]) (named : Plain head.name) (result : Plain returns.text)
    (typed : Plain parameter.type.text) (receives : Plain parameter.name)
    (statements : ∀ element ∈ body, element.IsStatement) :
    ∃ lines, Lays (Java.Element.method head body).layout 1 lines 1 ∧ "" ∉ lines := by
  have opened : Lays head.layout 1 [head.line 1] 2 :=
    Java.MethodHead.lays (by rw [stated]; decide) given result named
      (by rw [received, List.forall_mem_singleton]; exact ⟨typed, receives⟩) 1
  refine ⟨_, Lays.method opened statements, ?_⟩
  simp [Java.MethodHead.line, Java.Element.line]

namespace SolidNames

variable {file : MapperFile} {context : MapperContext} {table : Table}
  (names : SolidNames file context table)

include names

theorem lays_converterField {converter : Converter} (member : converter ∈ table.converters) :
    Lays (MapperPart.converterField context table converter).layout 1
      [(MapperPart.converterField context table converter).line 1] 1 := by
  obtain ⟨column, inTable, converts⟩ := table.exists_column_of_mem_converters member
  obtain ⟨type, source, target, constant⟩ := names.converters column inTable converter converts
  have boxed {name : String} (solid : Solid name) :
      Plain (Java.TypeRef.named (Java.boxed name)).text :=
    Java.TypeRef.plain_text_parse (Java.plain_boxed solid.plain) (List.forall_mem_nil _)
  rw [MapperPart.converterField]
  split
  · have written : Plain (Java.TypeRef.parse converter.converterType
        [.named (Java.boxed converter.fromType), .named (Java.boxed converter.toType)]).text :=
      Java.TypeRef.plain_text_parse type.plain (by simp [boxed source, boxed target])
    refine Java.FieldMember.lays_constant written constant.plain ?_ 1
    rw [Java.allPlain_new]
    exact ⟨written, by simp [boxed source, boxed target]⟩
  · have written := (Java.TypeRef.unbroken_named type.2).plain
    refine Java.FieldMember.lays_constant written constant.plain ?_ 1
    rw [Java.allPlain_new]
    exact ⟨written, List.forall_mem_nil _⟩

theorem exists_lays_converters : ∃ lines,
    Lays (table.converters.flatMap fun converter =>
      (MapperPart.converterField context table converter).layout) 1 lines 1 ∧ "" ∉ lines := by
  have laid (converters : List Converter)
      (members : ∀ converter ∈ converters, converter ∈ table.converters) : ∃ lines,
      Lays (converters.flatMap fun converter =>
        (MapperPart.converterField context table converter).layout) 1 lines 1 ∧ "" ∉ lines := by
    induction converters with
    | nil => exact ⟨[], .nil 1, List.not_mem_nil⟩
    | cons converter rest ih =>
      obtain ⟨first, others⟩ := List.forall_mem_cons.mp members
      obtain ⟨lines, later, filled⟩ := ih others
      refine ⟨_, (names.lays_converterField first).append later, ?_⟩
      simp [Java.FieldMember.line, filled]
  exact laid table.converters fun _ member => member

/-- Every part of a mapper class is laid out. -/
theorem isLaidOut_standard (written : ∀ type ∈ localTypes context table, type ≠ "java.lang.") :
    ∀ part ∈ MapperPart.standard, part.IsLaidOut context table := by
  have className := (Java.TypeRef.unbroken_named names.className.2).plain
  have recordType := (Java.TypeRef.unbroken_named names.recordType.2).plain
  rw [MapperPart.standard]
  simp only [List.forall_mem_cons]
  refine ⟨?_, ?_, ?_, List.forall_mem_nil _⟩
  · obtain ⟨lines, laid, filled⟩ := names.exists_lays_converters
    exact MapperPart.isLaidOut_whenMapped laid filled
  · obtain ⟨lines, laid, filled⟩ : ∃ lines,
        Lays (ToEntity.method context table).layout 1 lines 1 ∧ "" ∉ lines :=
      MapperPart.exists_lays_method rfl rfl rfl names.toEntity.plain className recordType
        (show Plain ToEntity.recordVariable by decide) (names.isStatement_toEntity written)
    exact MapperPart.isLaidOut_whenMapped laid filled
  · obtain ⟨lines, laid, filled⟩ : ∃ lines,
        Lays (ToRecord.method context table).layout 1 lines 1 ∧ "" ∉ lines :=
      MapperPart.exists_lays_method rfl rfl rfl names.toRecord.plain recordType className
        (show Plain ToEntity.entityVariable by decide) (names.isStatement_toRecord written)
    exact MapperPart.isLaidOut_whenMapped laid filled

end SolidNames

namespace MapperPart

variable {context : MapperContext} {table : Table}

/-- The buffer that the parts of a mapper class fork from, as far as they can tell. -/
def classBody : Buffer :=
  { Buffer.java with level := 1 }

/-- Parts that are laid out write laid out members. -/
theorem exists_members {parts : List MapperPart}
    (laidOut : ∀ part ∈ parts, part.IsLaidOut context table) :
    ∃ members : List (List String), members.map unlines = outputs context table classBody parts ∧
      ∀ member ∈ members, member ≠ [] ∧ "" ∉ member ∧ LaidOut 1 member 1 ∧
        ∀ line ∈ member, '\n' ∉ line.toList := by
  induction parts with
  | nil => exact ⟨[], rfl, List.forall_mem_nil _⟩
  | cons part rest ih =>
    obtain ⟨⟨lines, laid, filled⟩, others⟩ := List.forall_mem_cons.mp laidOut
    obtain ⟨members, written, shapes⟩ := ih others
    have output : part.output context table classBody = unlines lines := by
      have alone := congrArg Buffer.text (laid.written "")
      rwa [String.empty_append] at alone
    cases lines with
    | nil => exact ⟨members, by rw [outputs_cons_of_empty output, written], shapes⟩
    | cons line others =>
      have something : part.output context table classBody ≠ "" := by
        rw [output, unlines_cons]
        simp
      refine ⟨(line :: others) :: members, ?_, List.forall_mem_cons.mpr ⟨?_, shapes⟩⟩
      · rw [outputs_cons_of_filled something, List.map_cons, written, output]
      · exact ⟨List.cons_ne_nil _ _, filled, laid.laidOut, laid.inLine⟩

/-- From a line start in the class body, the parts write the lines of the members with an empty line
between neighbours. -/
theorem writeAll_members {parts : List MapperPart} {members : List (List String)}
    (laidOut : ∀ part ∈ parts, part.IsLaidOut context table)
    (written : members.map unlines = outputs context table classBody parts) (text : String) :
    writeAll context table parts ⟨.spaces 4, 1, true, text⟩ =
      ⟨.spaces 4, 1, true, text ++ unlines (List.intercalate [""] members)⟩ := by
  have same : output context table ⟨.spaces 4, 1, true, text⟩ = output context table classBody :=
    output_congr rfl
  have ended : ∀ part ∈ parts, EndsLine (part.output context table ⟨.spaces 4, 1, true, text⟩) := by
    intro part inParts
    obtain ⟨lines, laid, _⟩ := laidOut part inParts
    exact Buffer.endsLine_writeAll (fun _ => .inl rfl) _ (congrArg Buffer.atLineStart (laid.written ""))
  rw [writeAll, writeFrom_eq false _ _ (by simp) ended, outputs, same, ← outputs, ← written,
    ← joinWith_unlines]
  rfl

end MapperPart

namespace MapperFile

/-- The lines up to the one that opens the class. -/
def headLines (file : MapperFile) (table : Table) : List String :=
  (if file.packageOf table = "" then [] else ["package " ++ file.packageOf table ++ ";", ""])
    ++ ["import static " ++ file.tablesClass ++ "." ++ table.constant ++ ";", "",
      "public final class " ++ className table ++ " \x7b"]

/-- What a file writes in front of the class body. -/
def headPieces (file : MapperFile) (table : Table) : List Piece :=
  (if file.packageOf table = "" then []
    else Source.line ("package " ++ file.packageOf table ++ ";") ++ [.blankLine])
    ++ Source.line ("import static " ++ file.tablesClass ++ "." ++ table.constant ++ ";")
    ++ .blankLine :: ({ isFinal := true, name := className table } : Java.ClassHead).layout

theorem render_eq (file : MapperFile) (context : MapperContext) (table : Table) :
    file.render context table =
      ((MapperPart.writeAll context table file.parts
        (Buffer.java.writeAll (file.headPieces table))).writeAll Java.closeBody).text :=
  rfl

/-- A line at the margin. -/
theorem lays_line {s : String} (plain : Plain s) (begins : Begins s) (ends : Ends s) :
    Lays (Source.line s) 0 [s] 0 := by
  have text : content [.token s] = s := by simp [Piece.content]
  have token : AllPlain [.token s] := by simpa using plain
  have laid := Lays.plain token 0 (by rwa [text]) (by rwa [text])
  rwa [text] at laid

/-- The line that opens the class. -/
theorem lays_classHead {table : Table} (simpleName : Plain table.simpleClassName) :
    Lays ({ isFinal := true, name := className table } : Java.ClassHead).layout 0
      ["public final class " ++ className table ++ " \x7b"] 1 := by
  let head : Java.ClassHead := { isFinal := true, name := className table }
  have stated : head.visibility ≠ .packageAccess := by simp [head]
  have name : Plain head.name := simpleName.append (by decide)
  have opened : Lays head.layout 0 [head.line 0] 1 := Java.ClassHead.lays stated name 0
  have text : head.line 0 = "public final class " ++ className table ++ " \x7b" := by
    have words : "public final class " = "public" ++ (" " ++ ("final " ++ "class ")) := by decide
    calc head.line 0
        = "public" ++ (" " ++ ("final " ++ ("class " ++ (className table ++ " \x7b")))) := by
          simp [head, Java.ClassHead.line, Java.modifiersLayout, Java.Visibility.keyword?, javaMargin,
            Indent.margin, Piece.content, String.append_assoc]
      _ = "public final class " ++ className table ++ " \x7b" := by
          rw [words]
          simp only [String.append_assoc]
  rwa [text] at opened

theorem lays_headPieces {file : MapperFile} {table : Table} (package : Plain (file.packageOf table))
    (tablesClass : Plain file.tablesClass) (constant : Plain table.constant)
    (simpleName : Plain table.simpleClassName) :
    Lays (file.headPieces table) 0 (file.headLines table) 1 := by
  have opened := lays_classHead simpleName
  have named {before name : String} (begins : Begins before) (first : Plain before) (plain : Plain name) :
      Lays (Source.line (before ++ name ++ ";")) 0 [before ++ name ++ ";"] 0 :=
    lays_line ((first.append plain).append (by decide)) ((begins.append _).append _)
      (Ends.append (by decide) _)
  have imports : Lays (Source.line ("import static " ++ file.tablesClass ++ "." ++ table.constant ++ ";"))
      0 ["import static " ++ file.tablesClass ++ "." ++ table.constant ++ ";"] 0 := by
    have laid := named (show Begins "import static " by decide) (by decide)
      ((tablesClass.append (show Plain "." by decide)).append constant)
    simpa only [String.append_assoc] using laid
  have later := imports.append ((Lays.blank 0).append opened)
  rw [headPieces, headLines, List.append_assoc]
  split
  · exact later
  · exact ((named (by decide) (by decide) package).append (Lays.blank 0)).append later

variable {file : MapperFile} {context : MapperContext} {table : Table}

/-- Empty lines stand alone, in the head as between the members. -/
theorem spaced_lines {members : List (List String)}
    (filled : ∀ member ∈ members, member ≠ [] ∧ "" ∉ member) :
    Spaced (file.headLines table ++ List.intercalate [""] members ++ ["\x7d"]) := by
  have head : Spaced (file.headLines table) := by
    rw [headLines]
    split <;> simp [Spaced]
  have opened : (file.headLines table).getLast? =
      some ("public final class " ++ className table ++ " \x7b") := by
    simp [headLines]
  refine List.isChain_append.mpr ⟨List.isChain_append.mpr ⟨head, (spaced_intercalate filled).1,
    fun last member _ _ => .inl ?_⟩, .singleton _, fun _ _ next member => .inr ?_⟩
  · obtain rfl := Option.some.inj (opened.symm.trans member)
    simp
  · obtain rfl := Option.some.inj member
    decide

/-- The lines of a file are those of its head, of its members with an empty line between neighbours, and
the closing brace. -/
theorem exists_render_eq (head : Lays (file.headPieces table) 0 (file.headLines table) 1)
    (laidOut : ∀ part ∈ file.parts, part.IsLaidOut context table) :
    ∃ members : List (List String),
      members.map unlines = MapperPart.outputs context table MapperPart.classBody file.parts ∧
      (∀ member ∈ members, member ≠ [] ∧ "" ∉ member) ∧
      (∀ line ∈ file.headLines table ++ List.intercalate [""] members ++ ["\x7d"], '\n' ∉ line.toList) ∧
      LaidOut 0 (file.headLines table ++ List.intercalate [""] members ++ ["\x7d"]) 0 ∧
      file.render context table =
        unlines (file.headLines table ++ List.intercalate [""] members ++ ["\x7d"]) := by
  obtain ⟨members, written, shapes⟩ := MapperPart.exists_members laidOut
  have closing := Lays.closing 0
  have brace : javaMargin 0 ++ "\x7d" = "\x7d" := by simp [javaMargin, Indent.margin]
  rw [brace] at closing
  refine ⟨members, written, fun member inside => ⟨(shapes member inside).1, (shapes member inside).2.1⟩,
    ?_, ?_, ?_⟩
  · refine List.forall_mem_append.mpr ⟨List.forall_mem_append.mpr ⟨head.inLine, ?_⟩, closing.inLine⟩
    intro line member
    rcases Text.mem_intercalate member with empty | ⟨member, inMembers, inMember⟩
    · rw [List.mem_singleton.mp empty]
      decide
    · exact (shapes member inMembers).2.2.2 line inMember
  · exact (head.laidOut.append (LaidOut.intercalate fun member inside =>
      (shapes member inside).2.2.1)).append closing.laidOut
  · have opened := head.written ""
    rw [String.empty_append] at opened
    have closed := closing.written (unlines (file.headLines table)
      ++ unlines (List.intercalate [""] members))
    rw [render_eq, Buffer.java, Buffer.new, opened, MapperPart.writeAll_members laidOut written]
    rw [unlines_append, unlines_append]
    exact congrArg Buffer.text closed

end MapperFile

namespace Java

theorem mem_of_mem_packageName {qualified : String} {c : Char}
    (member : c ∈ (packageName qualified).toList) : c ∈ qualified.toList := by
  rw [packageName, String.toList_ofList, Text.beforeLast, List.mem_reverse] at member
  exact List.mem_reverse.mp ((List.dropWhile_sublist _).mem (List.mem_of_mem_drop member))

theorem mem_of_mem_simpleName {qualified : String} {c : Char}
    (member : c ∈ (simpleName qualified).toList) : c ∈ qualified.toList := by
  rw [simpleName, String.toList_ofList, Text.afterLast, List.mem_reverse] at member
  exact (List.takeWhile_sublist _).mem
    (List.mem_reverse.mp ((List.takeWhile_sublist _).mem member))

end Java

open MapperPart (outputs classBody) in
/-- Where names hold neither braces nor white space, and no type is the package of `java.lang` itself, a
mapper file is laid out: its braces come out even, each line is as far in as the braces around it ask for
and ends in no blank, and empty lines stand between the lines of its head and between its members only. -/
theorem mapper_layout {file : MapperFile} {context : MapperContext} {table : Table}
    (standard : file.parts = MapperPart.standard) (names : SolidNames file context table)
    (written : ∀ type ∈ localTypes context table, type ≠ "java.lang.") :
    ∃ members : List (List String),
      let lines := file.headLines table ++ List.intercalate [""] members ++ ["\x7d"]
      Text.segments '\n' (file.render context table) = lines ++ [""] ∧
        (file.render context table).toList.getLast? = some '\n' ∧
        nesting? 0 (file.render context table).toList = some 0 ∧
        LaidOut 0 lines 0 ∧ Spaced lines ∧
        members.map unlines = outputs context table classBody MapperPart.standard ∧
        (∀ member ∈ members, member ≠ [] ∧ "" ∉ member) ∧
        (table.mappingEnabled = false → members = []) := by
  have package : Plain (file.packageOf table) := by
    rw [MapperFile.packageOf]
    cases given : file.package with
    | none => exact fun c member => names.className.plain c (Java.mem_of_mem_packageName member)
    | some package => exact (names.package package given).plain
  have simpleName : Plain table.simpleClassName := fun c member =>
    names.className.plain c (Java.mem_of_mem_simpleName member)
  have head := MapperFile.lays_headPieces package names.tablesClass.plain
    (plain_constantName names.tableName.plain) simpleName
  have parts : ∀ part ∈ file.parts, part.IsLaidOut context table := by
    rw [standard]
    exact names.isLaidOut_standard written
  obtain ⟨members, produced, filled, inLine, laidOut, rendered⟩ := MapperFile.exists_render_eq head parts
  refine ⟨members, ?_, ?_, ?_, laidOut, ?_, standard ▸ produced, filled, ?_⟩
  · rw [rendered, segments_unlines inLine]
  · rw [rendered, unlines_append, String.toList_append,
      List.getLast?_append_of_ne_nil _ (by simp [unlines])]
    rfl
  · rw [rendered, laidOut.nesting?_unlines]
  · exact MapperFile.spaced_lines filled
  · intro disabled
    have nothing : outputs context table classBody file.parts = [] := by
      rw [standard, MapperPart.outputs]
      simp [MapperPart.standard, MapperPart.converters, MapperPart.toEntity, MapperPart.toRecord,
        MapperPart.whenMapped, MapperPart.output, disabled, Buffer.fork, Buffer.new]
    exact List.map_eq_nil_iff.mp (produced.trans nothing)

/-- A column of its own and one inside an embedded object. -/
theorem person_mapper_layout :
    let file : MapperFile := { tablesClass := "model.Tables" }
    let long : DataType := ⟨"model", .named "long", "bigint", "", none⟩
    let columns : List Column := [
      ⟨"person", "id", "id", long, []⟩,
      ⟨"person", "home_zip", "zip", long, [⟨"home", "model.Address", "address"⟩]⟩]
    let table := Table.ofColumns ⟨"entities", "model"⟩ "person" "model.Person" true columns
    file.parts = MapperPart.standard ∧ SolidNames file {} table ∧
      (∀ type ∈ localTypes {} table, type ≠ "java.lang.") ∧
      (file.render {} table).toList.getLast? = some '\n' ∧
      nesting? 0 (file.render {} table).toList = some 0 := by
  intro file long columns table
  have among (column : Column) (member : column ∈ table.columns) : column ∈ columns :=
    Table.mem_ofColumns.mp member
  have names : SolidNames file {} table := {
    package := by simp [file]
    tablesClass := by decide
    tableName := by decide
    className := by decide
    columns := fun column member =>
      (show ∀ column ∈ columns, Solid column.name ∧ Solid column.fieldName by decide)
        column (among column member)
    parents := fun column member =>
      (show ∀ column ∈ columns, ∀ field ∈ column.parents,
        Solid field.fieldName ∧ Solid field.typeName ∧ Solid field.varName by decide)
        column (among column member)
    converters := fun column member converter converts => by
      have none : ∀ column ∈ columns, column.converter = none := by decide
      simp [none column (among column member)] at converts
    recordType := by decide
    newRecord := by decide
    setValue := by decide
    getValue := by decide
    toEntity := by decide
    toRecord := by decide }
  have written : ∀ type ∈ localTypes {} table, type ≠ "java.lang." := by
    rw [localTypes, List.forall_mem_cons, List.forall_mem_cons]
    refine ⟨by decide, by decide, fun type member => ?_⟩
    obtain ⟨column, inTable, parent⟩ := List.mem_flatMap.mp member
    exact (show ∀ column ∈ columns, ∀ type ∈ column.parents.map (·.typeName), type ≠ "java.lang."
      by decide) column (among column inTable) type parent
  obtain ⟨_, _, ended, even, _⟩ := mapper_layout rfl names written
  exact ⟨rfl, names, written, ended, even⟩

/-- The package of `java.lang` itself is solid as a name, but as a type it is written as nothing. -/
theorem misplaced_declaration :
    let file : MapperFile := { tablesClass := "model.Tables" }
    let table := Table.ofColumns ⟨"entities", "model"⟩ "person" "java.lang." true []
    let lines := ["package java.lang;", "", "import static model.Tables.PERSON;", "",
      "public final class Mapper \x7b",
      "    public static  toEntity(org.jooq.Record record) \x7b",
      "         entity = new ();",
      "        return entity;",
      "    \x7d",
      "",
      "    public static org.jooq.Record toRecord( entity) \x7b",
      "        org.jooq.Record record = PERSON.newRecord();",
      "        return record;",
      "    \x7d",
      "\x7d"]
    SolidNames file {} table ∧ Text.segments '\n' (file.render {} table) = lines ++ [""] ∧
      ¬ LaidOut 0 lines 0 := by
  intro file table lines
  have none : table.columns = [] := by simp [table, Table.ofColumns]
  have rendered : file.render {} table = unlines lines := by decide +kernel
  have names : SolidNames file {} table := {
    package := by simp [file]
    tablesClass := by decide
    tableName := by decide
    className := by decide
    columns := by simp [none]
    parents := by simp [none]
    converters := by simp [none]
    recordType := by decide
    newRecord := by decide
    setValue := by decide
    getValue := by decide
    toEntity := by decide
    toRecord := by decide }
  refine ⟨names, ?_, by decide +kernel⟩
  rw [rendered, segments_unlines (by decide +kernel)]

end EntityMapper
