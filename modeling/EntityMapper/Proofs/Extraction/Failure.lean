import EntityMapper.Proofs.Extraction.Build

/-!
# What a failed build stopped at

One statement for each step of a table build, from a single column up to the table: when the step
fails, which part failed, and that all parts before it succeeded. Every cause is either met by the
walk or one of five that the build of a column or the naming of a table can have.
-/
namespace EntityMapper

namespace MappingError

/-- A naming strategy could not be constructed. -/
def OfStrategy : MappingError → Prop
  | strategyNotRegistered _ | strategyFailed _ _ => True
  | _ => False

end MappingError

theorem StrategyCatalog.make_eq_error {catalog : StrategyCatalog} {name : String}
    {cause : MappingError} (failed : catalog.make name = .error cause) : cause.OfStrategy := by
  rw [make] at failed
  split at failed <;> cases failed <;> trivial

theorem StrategyCatalog.resolve_eq_error {catalog : StrategyCatalog} {name : Option String}
    {cause : MappingError} (failed : catalog.resolve name = .error cause) : cause.OfStrategy := by
  cases name with
  | none => cases failed
  | some name => exact make_eq_error failed

theorem DialectRouter.sqlType_eq_error {router : DialectRouter} {dialect : String}
    {type : FieldType} {cause : MappingError} (failed : router.sqlType dialect type = .error cause) :
    cause = .typeNotFound dialect type.name := by
  rw [sqlType_eq] at failed
  split at failed <;> cases failed
  rfl

theorem DialectRouter.fieldType_eq_error {router : DialectRouter} {dialect literal : String}
    {cause : MappingError} (failed : router.fieldType dialect literal = .error cause) :
    cause = .typeNotFound dialect literal := by
  rw [fieldType_eq] at failed
  split at failed <;> cases failed
  rfl

/-- Only a converter that is asked for by name and not declared cannot be resolved. -/
theorem DefaultConverters.resolve_eq_error {defaults : DefaultConverters} {metadata : Metadata}
    {explicit : Option String} {type : FieldType} {cause : MappingError}
    (failed : defaults.resolve metadata explicit type = .error cause) :
    ∃ name, explicit = some name ∧ metadata.converter? name = none ∧
      cause = .converterNotDeclared name := by
  cases explicit with
  | none => cases failed
  | some name =>
    simp only [resolve] at failed
    cases declared : metadata.converter? name with
    | none =>
      rw [declared] at failed
      cases failed
      exact ⟨name, rfl, declared, rfl⟩
    | some decl =>
      rw [declared] at failed
      cases failed

namespace ColumnFrame

theorem strategyFor_eq_error {frame : ColumnFrame} {options : ColumnOptions} {cause : MappingError}
    (failed : frame.strategyFor options = .error cause) : cause.OfStrategy := by
  rw [strategyFor] at failed
  split at failed
  · exact StrategyCatalog.make_eq_error failed
  · cases failed

theorem sqlType_eq_error {frame : ColumnFrame} {literal : Option String}
    {converter : Option Converter} {type : FieldType} {cause : MappingError}
    (failed : frame.sqlType literal converter type = .error cause) :
    ∃ requested, cause = .typeNotFound frame.dialect requested := by
  cases literal with
  | some literal =>
    rcases bind_eq_error.mp failed with unknown | ⟨_, _, returned⟩
    · exact ⟨literal, DialectRouter.fieldType_eq_error unknown⟩
    · cases returned
  | none =>
    cases converter with
    | some converter => exact ⟨converter.fromType, DialectRouter.sqlType_eq_error failed⟩
    | none => exact ⟨type.name, DialectRouter.sqlType_eq_error failed⟩

/-- A column fails at its strategy, its converter or its SQL type. -/
theorem build_eq_error {frame : ColumnFrame} {path : FieldPath} {overrides : Option ColumnOptions}
    {cause : MappingError} (failed : frame.build path overrides = .error cause) :
    cause.OfStrategy ∨
      (∃ name, (optionsFor path.field overrides).converter = some name ∧
        frame.mapping.metadata.converter? name = none ∧ cause = .converterNotDeclared name) ∨
      ∃ requested, cause = .typeNotFound frame.dialect requested := by
  rw [build_eq] at failed
  rcases bind_eq_error.mp failed with unnamed | ⟨_, _, failed⟩
  · exact .inl (strategyFor_eq_error unnamed)
  · rcases bind_eq_error.mp failed with unresolved | ⟨_, _, failed⟩
    · exact .inr (.inl (DefaultConverters.resolve_eq_error unresolved))
    · rcases bind_eq_error.mp failed with untyped | ⟨_, _, returned⟩
      · exact .inr (.inr (sqlType_eq_error untyped))
      · cases returned

/-- A visit fails by what the walk has met there, or as its column does. -/
theorem ofVisit_eq_error {frame : ColumnFrame} {visit : Visit} {cause : MappingError}
    (failed : frame.ofVisit visit = .error cause) :
    (∃ name referencedBy, visit = .unknownClass name referencedBy ∧
      cause = .unknownClass name referencedBy) ∨
    (∃ className path, visit = .cycle className path ∧ cause = .embeddingCycle className path) ∨
    ∃ path overrides, visit = .leaf path overrides ∧ frame.build path overrides = .error cause := by
  cases visit with
  | unknownClass name referencedBy =>
    cases failed
    exact .inl ⟨name, referencedBy, rfl, rfl⟩
  | cycle className path =>
    cases failed
    exact .inr (.inl ⟨className, path, rfl, rfl⟩)
  | leaf path overrides =>
    simp only [ofVisit] at failed
    split at failed
    · rcases bind_eq_error.mp failed with built | ⟨_, _, returned⟩
      · exact .inr (.inr ⟨path, overrides, rfl, built⟩)
      · cases returned
    · cases failed

/-- Visits fail as the first of them that fails. -/
theorem ofVisits_eq_error {frame : ColumnFrame} {visits : List Visit} {cause : MappingError} :
    frame.ofVisits visits = .error cause ↔
      ∃ before visit after columns, visits = before ++ visit :: after ∧
        frame.ofVisits before = .ok columns ∧ frame.ofVisit visit = .error cause := by
  constructor
  · intro failed
    induction visits with
    | nil => cases failed
    | cons visit rest ih =>
      rcases bind_eq_error.mp failed with own | ⟨column, first, failed⟩
      · exact ⟨[], visit, rest, [], rfl, rfl, own⟩
      · rcases bind_eq_error.mp failed with later | ⟨_, _, returned⟩
        · obtain ⟨before, other, after, columns, rfl, succeed, fails⟩ := ih later
          refine ⟨visit :: before, other, after, column.toList ++ columns, rfl, ?_, fails⟩
          simp only [ofVisits, first, succeed]
          rfl
        · cases returned
  · rintro ⟨before, visit, after, columns, rfl, succeed, fails⟩
    induction before generalizing columns with
    | nil => exact bind_eq_error.mpr (.inl fails)
    | cons earlier before ih =>
      obtain ⟨column, first, succeed⟩ := bind_eq_ok.mp succeed
      obtain ⟨others, tail, _⟩ := bind_eq_ok.mp succeed
      refine bind_eq_error.mpr (.inr ⟨column, first, bind_eq_error.mpr (.inl ?_)⟩)
      exact ih others tail

theorem ofLevel_eq_error {frame : ColumnFrame} {visits : List Visit} {cause : MappingError}
    (failed : frame.ofLevel visits = .error cause) :
    frame.ofVisits visits = .error cause ∨ ∃ name, cause = .duplicateColumn frame.table name := by
  rcases bind_eq_error.mp failed with visited | ⟨columns, _, repeated⟩
  · exact .inl visited
  · split at repeated
    · cases repeated
      exact .inr ⟨_, rfl⟩
    · cases repeated

/-- Levels fail as the first of them that fails. -/
theorem ofLevels_eq_error {frame : ColumnFrame} {columns : List Column}
    {levels : List (List Visit)} {cause : MappingError} :
    frame.ofLevels columns levels = .error cause ↔
      ∃ lower visits upper collected, levels = lower ++ visits :: upper ∧
        frame.ofLevels columns lower = .ok collected ∧ frame.ofLevel visits = .error cause := by
  constructor
  · intro failed
    induction levels generalizing columns with
    | nil => cases failed
    | cons visits rest ih =>
      rcases bind_eq_error.mp failed with own | ⟨level, made, failed⟩
      · exact ⟨[], visits, rest, columns, rfl, rfl, own⟩
      · obtain ⟨lower, higher, upper, collected, rfl, succeed, fails⟩ := ih failed
        exact ⟨visits :: lower, higher, upper, collected, rfl,
          bind_eq_ok.mpr ⟨level, made, succeed⟩, fails⟩
  · rintro ⟨lower, visits, upper, collected, rfl, succeed, fails⟩
    induction lower generalizing columns with
    | nil => exact bind_eq_error.mpr (.inl fails)
    | cons below lower ih =>
      obtain ⟨level, made, succeed⟩ := bind_eq_ok.mp succeed
      exact bind_eq_error.mpr (.inr ⟨level, made, ih succeed⟩)

end ColumnFrame

namespace Mapping

theorem baseScope_eq_error {mapping : Mapping} {cause : MappingError}
    (failed : mapping.baseScope = .error cause) : cause.OfStrategy := by
  rcases bind_eq_error.mp failed with unnamed | ⟨_, _, returned⟩
  · exact StrategyCatalog.resolve_eq_error unnamed
  · cases returned

theorem strategyIn_eq_error {mapping : Mapping} {scope : Scope} {name : Option String}
    {cause : MappingError} (failed : mapping.strategyIn scope name = .error cause) :
    cause.OfStrategy := by
  cases name with
  | none => cases failed
  | some name => exact StrategyCatalog.make_eq_error failed

theorem schemaOf_eq_error {mapping : Mapping} {decl : ClassDeclaration} {scope : Scope}
    {cause : MappingError} (failed : mapping.schemaOf decl scope = .error cause) :
    cause.OfStrategy := by
  rcases bind_eq_error.mp failed with unnamed | ⟨_, _, returned⟩
  · exact strategyIn_eq_error unnamed
  · cases returned

theorem schemasIn_eq_error {mapping : Mapping} {base : Scope} {classes : List ClassDeclaration}
    {cause : MappingError} (failed : mapping.schemasIn base classes = .error cause) :
    cause.OfStrategy := by
  induction classes with
  | nil => cases failed
  | cons decl rest ih =>
    rw [schemasIn] at failed
    split at failed
    · exact ih failed
    · rcases bind_eq_error.mp failed with own | ⟨_, _, failed⟩
      · exact schemaOf_eq_error own
      · rcases bind_eq_error.mp failed with later | ⟨_, _, returned⟩
        · exact ih later
        · cases returned

/-- A table is placed unless the strategy of its schema or its own cannot be constructed. -/
theorem tableScope_eq_error {mapping : Mapping} {decl : ClassDeclaration} {options : TableOptions}
    {parent : Scope} {cause : MappingError}
    (failed : mapping.tableScope decl options parent = .error cause) : cause.OfStrategy := by
  rcases bind_eq_error.mp failed with schema | ⟨_, _, failed⟩
  · exact schemaOf_eq_error schema
  · rcases bind_eq_error.mp failed with strategy | ⟨_, _, returned⟩
    · exact strategyIn_eq_error strategy
    · cases returned

/-- A table fails where it is placed or at its columns. -/
theorem buildIn_eq_error {mapping : Mapping} {decl : ClassDeclaration} {options : TableOptions}
    {parent : Scope} {cause : MappingError} :
    mapping.buildIn decl options parent = .error cause ↔
      mapping.tableScope decl options parent = .error cause ∨
      ∃ placed, mapping.tableScope decl options parent = .ok placed ∧
        (mapping.columnFrame parent placed).ofLevels []
          (walkLevels mapping.metadata decl
            (lineage mapping.metadata decl options.inheritance) {}) = .error cause := by
  rw [buildIn, bind_eq_error]
  refine or_congr_right (exists_congr fun placed => and_congr_right fun found => ?_)
  rw [tableScope_dialect found, bind_eq_error]
  constructor
  · rintro (columns | ⟨_, _, returned⟩)
    · exact columns
    · cases returned
  · exact .inl

end Mapping

end EntityMapper
