import EntityMapper.Proofs.Extraction.Failure
import EntityMapper.Proofs.Extraction.Sources
import EntityMapper.Proofs.TypeMapping.Lookup

/-!
# Fields that nothing is said of

A field without column options and without override is passed over if its type has neither a row in the
dialect nor a default converter. Any other is built, and a default converter comes before the row: then
the dialect must have a type for what the converter reads, which no one has asked for until then. With it
such a field is passed over or built, and without it neither (`unannotated_skipped_or_built`).
-/
namespace EntityMapper

/-- The dialect has a type for what the default converter of the type reads, if there is one. -/
def Mapping.ReadsDefault (mapping : Mapping) (dialect typeName : String) : Prop :=
  ∀ converter, mapping.converters.forType? (mapping.fieldType typeName) = some converter →
    ∃ sql, mapping.types.sqlType dialect (.named converter.fromType) = .ok sql

/-- Column options of the field or an override speak of the leaf path. -/
def LeafPath.Annotated (root level : ClassDeclaration) (leaf : LeafPath) : Prop :=
  leaf.field.column.isSome = true ∨ (leaf.entries root level).any Option.isSome = true

/-- Of all types, the standard defaults convert the declared enums, and all to strings. -/
theorem DefaultConverters.forType?_standard {library : QueryLibrary} {type : FieldType}
    {converter : Converter} (default : (standard library).forType? type = some converter) :
    converter.fromType = "java.lang.String" := by
  cases type with
  | named name => cases default
  | enumeration name =>
    cases default
    rfl

/-- A dialect with a type for strings has one for all that the standard defaults read. -/
theorem Mapping.readsDefault_standard {mapping : Mapping} {library : QueryLibrary}
    (standard : mapping.converters = .standard library) {dialect sql : String}
    (strings : mapping.types.sqlType dialect (.named "java.lang.String") = .ok sql)
    (typeName : String) : mapping.ReadsDefault dialect typeName := by
  intro converter default
  rw [standard] at default
  exact ⟨sql, by rw [DefaultConverters.forType?_standard default, strings]⟩

namespace ColumnFrame

variable {frame : ColumnFrame}

/-- Without options a column needs nothing but its SQL type. -/
theorem exists_build_iff {path : FieldPath} (unset : path.field.column = none) :
    (∃ column, frame.build path none = .ok column) ↔
      ∃ sql, frame.sqlType none
        (frame.mapping.converters.forType? (frame.mapping.fieldType path.field.type))
        (frame.mapping.fieldType path.field.type) = .ok sql := by
  have silent : optionsFor path.field none = .unset := by rw [optionsFor, unset, Option.getD_none]
  simp only [build_eq_ok, silent]
  constructor
  · rintro ⟨_, _, converter, sql, _, resolved, typed, _⟩
    cases resolved
    exact ⟨sql, typed⟩
  · rintro ⟨sql, typed⟩
    exact ⟨_, frame.strategy, _, sql, rfl, rfl, typed, rfl⟩

/-- A field that nothing is said of is passed over or built exactly if what its default converter reads
has a type. -/
theorem skipped_or_built_iff {path : FieldPath} (unset : path.field.column = none) :
    (frame.keeps path.field none = false ∨ ∃ column, frame.build path none = .ok column) ↔
      frame.mapping.ReadsDefault frame.dialect path.field.type := by
  rw [exists_build_iff unset, Mapping.ReadsDefault, keeps, unset, isStorable, DialectRouter.maps]
  cases frame.mapping.converters.forType? (frame.mapping.fieldType path.field.type) with
  | some converter => simp [sqlType]
  | none =>
    simp only [sqlType, DialectRouter.sqlType_eq_ok]
    cases (frame.mapping.types.dialect? frame.dialect).bind
      (·.sqlType? (frame.mapping.fieldType path.field.type)) <;> simp

/-- The leaf path is kept, and the build of its column ends with the cause. -/
def StopsAt (frame : ColumnFrame) (walkFrame : Frame) (leaf : LeafPath) (cause : MappingError) :
    Prop :=
  frame.keepsLeaf walkFrame leaf = true ∧
    ∃ path : FieldPath, Visit.ShowsLeaf walkFrame leaf (.leaf path (walkFrame.overridesFor leaf)) ∧
      frame.build path (walkFrame.overridesFor leaf) = .error cause

/-- The build of a column ends at fields alone that something is said of. -/
theorem StopsAt.annotated (reads : ∀ typeName, frame.mapping.ReadsDefault frame.dialect typeName)
    {root level : ClassDeclaration} {leaf : LeafPath} {cause : MappingError}
    (stops : frame.StopsAt (levelFrame level root) leaf cause) : leaf.Annotated root level := by
  obtain ⟨kept, path, shows, failed⟩ := stops
  have same : path.field = leaf.field := by
    obtain ⟨parents, visited, _⟩ := shows
    cases visited
    rfl
  by_contra silent
  rw [LeafPath.Annotated, ← isSome_overridesFor, not_or, Option.not_isSome_iff_eq_none,
    Option.not_isSome_iff_eq_none] at silent
  obtain ⟨unset, unmentioned⟩ := silent
  rw [keepsLeaf, unmentioned, ← same] at kept
  rw [unmentioned] at failed
  rcases (skipped_or_built_iff (same ▸ unset)).mpr (reads path.field.type) with skipped | ⟨column, built⟩
  · simp [kept] at skipped
  · simp [built] at failed

/-- Where a visit asks for a type that is missing, the build of a leaf path's column ends. -/
theorem ofVisit_typeNotFound {metadata : Metadata} {walkFrame : Frame}
    {fields : List FieldDeclaration} {before after : Variables} {visits : List Visit}
    (walked : Walked metadata walkFrame fields before visits after) {visit : Visit}
    (member : visit ∈ visits) {dialect requested : String}
    (failed : frame.ofVisit visit = .error (.typeNotFound dialect requested)) :
    ∃ leaf, LeadsTo metadata fields leaf ∧
      frame.StopsAt walkFrame leaf (.typeNotFound dialect requested) := by
  cases visit with
  | unknownClass name referencedBy => cases failed
  | cycle className path => cases failed
  | leaf path overrides =>
    obtain ⟨leaf, leads, parents, visited, typed⟩ := walked.exists_leadsTo member rfl
    cases visited
    change (if frame.keepsLeaf walkFrame leaf = true then _ else _) = _ at failed
    by_cases kept : frame.keepsLeaf walkFrame leaf = true
    · rw [if_pos kept, bind_eq_error] at failed
      rcases failed with built | ⟨_, _, returned⟩
      · exact ⟨leaf, leads, kept, _, ⟨parents, rfl, typed⟩, built⟩
      · cases returned
    · rw [if_neg kept] at failed
      cases failed

end ColumnFrame

/-- A table that misses a type misses it at a leaf path of one of its levels. -/
theorem Mapping.buildIn_typeNotFound {mapping : Mapping} {decl : ClassDeclaration}
    {options : TableOptions} {parent : Scope} {dialect requested : String}
    (failed : mapping.buildIn decl options parent = .error (.typeNotFound dialect requested)) :
    ∃ placed, mapping.tableScope decl options parent = .ok placed ∧
      ∃ level ∈ lineage mapping.metadata decl options.inheritance, ∃ leaf,
        LeadsTo mapping.metadata level.fields leaf ∧
          (mapping.columnFrame parent placed).StopsAt (levelFrame level decl) leaf
            (.typeNotFound dialect requested) := by
  rcases buildIn_eq_error.mp failed with unplaced | ⟨placed, found, failed⟩
  · exact (tableScope_eq_error unplaced).elim
  · obtain ⟨lower, visits, upper, _, split, _, failed⟩ := ColumnFrame.ofLevels_eq_error.mp failed
    have inLevels : visits ∈ walkLevels mapping.metadata decl
        (lineage mapping.metadata decl options.inheritance) {} := by simp [split]
    obtain ⟨level, inLineage, _, _, walked⟩ := walkLevels_walked inLevels
    rcases ColumnFrame.ofLevel_eq_error failed with failed | ⟨name, repeated⟩
    · obtain ⟨earlier, visit, later, _, rfl, _, failed⟩ := ColumnFrame.ofVisits_eq_error.mp failed
      obtain ⟨leaf, leads, stops⟩ := ColumnFrame.ofVisit_typeNotFound walked (by simp) failed
      exact ⟨placed, found, level, inLineage, leaf, leads, stops⟩
    · cases repeated

/-- A field that nothing is said of is passed over or built exactly if the dialect has a type for what its
default converter reads. Where that is so for all types, a table that misses a type misses it at a field
that something is said of. -/
theorem unannotated_skipped_or_built (mapping : Mapping) :
    (∀ (frame : ColumnFrame) (path : FieldPath), frame.mapping = mapping →
      path.field.column = none →
      ((frame.keeps path.field none = false ∨ ∃ column, frame.build path none = .ok column) ↔
        mapping.ReadsDefault frame.dialect path.field.type)) ∧
    ∀ (decl : ClassDeclaration) (options : TableOptions) (parent : Scope)
      (dialect requested : String),
      (∀ typeName, mapping.ReadsDefault (mapping.dialectIn parent) typeName) →
      mapping.buildIn decl options parent = .error (.typeNotFound dialect requested) →
      ∃ placed, mapping.tableScope decl options parent = .ok placed ∧
        ∃ level ∈ lineage mapping.metadata decl options.inheritance, ∃ leaf,
          LeadsTo mapping.metadata level.fields leaf ∧ leaf.Annotated decl level ∧
            (mapping.columnFrame parent placed).StopsAt (levelFrame level decl) leaf
              (.typeNotFound dialect requested) := by
  refine ⟨fun frame path same unset => same ▸ ColumnFrame.skipped_or_built_iff unset,
    fun decl options parent dialect requested reads failed => ?_⟩
  obtain ⟨placed, found, level, inLineage, leaf, leads, stops⟩ := Mapping.buildIn_typeNotFound failed
  exact ⟨placed, found, level, inLineage, leaf, leads, stops.annotated reads, stops⟩

/-- A ticket whose state nothing is said of, though its note is to be a column. -/
def ticketClasses : Metadata where
  classes := [
    { name := "desk.Ticket"
      table := some {}
      fields := [
        { name := "state", type := "desk.State" },
        { name := "note", type := "desk.Note", column := some {} }] },
    { name := "desk.State", kind := .enumeration, constants := ["OPEN"] }]
  converters := []

def ticketClass : ClassDeclaration :=
  ticketClasses.classes.headD { name := "" }

/-- The field of the ticket's state. -/
def ticketState : FieldPath :=
  ⟨{}, { name := "state", type := "desk.State" }⟩

def ticketFrame (mapping : Mapping) : ColumnFrame where
  mapping := mapping
  table := "ticket"
  schema := "desk"
  dialect := mapping.dialect
  strategy := LetterCase.lower.snake

/-- In a dialect with strings the state is built, and the table ends at the note. -/
theorem ticketClasses_skipped_or_built :
    ticketState.field.column = none ∧
      (∃ column, (ticketFrame (.ofMetadata ticketClasses)).build ticketState none = .ok column) ∧
      (Mapping.ofMetadata ticketClasses).buildIn ticketClass {} {} =
        .error (.typeNotFound "" "desk.Note") ∧
      ∃ level ∈ lineage ticketClasses ticketClass false, ∃ leaf,
        LeadsTo ticketClasses level.fields leaf ∧ leaf.Annotated ticketClass level := by
  have strings : (Mapping.ofMetadata ticketClasses).types.sqlType "" (.named "java.lang.String") =
      .ok "varchar" := by decide
  have reads (typeName : String) : (Mapping.ofMetadata ticketClasses).ReadsDefault "" typeName :=
    Mapping.readsDefault_standard rfl strings typeName
  have failed : (Mapping.ofMetadata ticketClasses).buildIn ticketClass {} {} =
      .error (.typeNotFound "" "desk.Note") :=
    cause?_eq_some.mp (by decide +kernel)
  obtain ⟨fields, tables⟩ := unannotated_skipped_or_built (.ofMetadata ticketClasses)
  refine ⟨rfl, ?_, failed, ?_⟩
  · rcases (fields (ticketFrame (.ofMetadata ticketClasses)) ticketState rfl rfl).mpr (reads _) with
      skipped | built
    · cases skipped
    · exact built
  · obtain ⟨_, _, level, inLineage, leaf, leads, annotated, _⟩ :=
      tables ticketClass {} {} "" "desk.Note" reads failed
    exact ⟨level, inLineage, leaf, leads, annotated⟩

/-- The tickets in a dialect of whole numbers. -/
def tinyMapping : Mapping where
  metadata := ticketClasses
  dialect := "TINY"
  types := (⟨[]⟩ : DialectRouter).register (({ name := "TINY" } : Dialect).pair "int" "int4")

/-- In a dialect without strings a state that nothing is said of is neither passed over nor built, and with
it the table is not. -/
theorem ticketState_neither_skipped_nor_built :
    (tinyMapping.types.dialect? "TINY").isSome = true ∧ ticketState.field.Stored ∧
      ticketState.field.embedded = none ∧ ticketState.field.column = none ∧
      (ticketFrame tinyMapping).keeps ticketState.field none = true ∧
      (ticketFrame tinyMapping).build ticketState none =
        .error (.typeNotFound "TINY" "java.lang.String") ∧
      tinyMapping.buildIn ticketClass {} {} = .error (.typeNotFound "TINY" "java.lang.String") := by
  refine ⟨by decide, ⟨rfl, rfl⟩, rfl, rfl, by decide, cause?_eq_some.mp ?_, cause?_eq_some.mp ?_⟩
  · decide +kernel
  · decide +kernel

end EntityMapper
