import EntityMapper.Manifest.Validation
import EntityMapper.Proofs.Manifest.Names
import EntityMapper.Proofs.Outcome

/-!
# Well-formed manifests

What a manifest has to be like, said of its declarations and of nothing else: which names they may
use, which must differ, and which must lead to a declaration. Each check of the validation accepts
exactly what is well-formed in its sense, and so the validation accepts exactly the well-formed
manifests (`Manifest.validate_eq_ok`), from whatever text and file they are said to come.
-/
namespace EntityMapper

/-- A converter that the options name is declared. -/
def Metadata.Knows (metadata : Metadata) (options : ColumnOptions) : Prop :=
  ∀ name, options.converter = some name → (metadata.converter? name).isSome = true

structure DatabaseOptions.WellFormed (options : DatabaseOptions) : Prop where
  dialect : ∀ c ∈ options.dialect.toList, c.isAlphanum = true ∨ c = '_'
  package : ∀ name, options.package = some name → Java.IsClassName name
  tablesClass : ∀ name, options.tablesClass = some name → Java.IsClassName name

structure ConverterDeclaration.WellFormed (name : String) (decl : ConverterDeclaration) : Prop where
  name : Java.IsClassName name
  fromType : Java.IsTypeName decl.fromType
  toType : Java.IsTypeName decl.toType

/-- Overrides are keyed by paths of identifiers and know the converters that they name. -/
def Overrides.WellFormed (manifest : Manifest) (overrides : Overrides) : Prop :=
  ∀ entry ∈ overrides,
    (∀ part ∈ Text.segments '.' entry.1, Java.isIdentifier part = true) ∧
      manifest.metadata.Knows entry.2

/-- What a field says of its column or of its embedding, which exclude each other. -/
structure FieldDeclaration.WellMapped (manifest : Manifest) (field : FieldDeclaration) : Prop where
  column : ∀ options, field.column = some options → manifest.metadata.Knows options
  unmixed : field.embedded.isSome = true → field.column = none
  declared : field.embedded.isSome = true → ∃ decl ∈ manifest.classes, decl.name = field.type
  overrides : ∀ inner, field.embedded = some inner → Overrides.WellFormed manifest inner

structure FieldDeclaration.WellFormed (manifest : Manifest) (field : FieldDeclaration) : Prop where
  name : Java.IsDeclarable field.name
  type : Java.IsTypeName field.type
  mapping : field.WellMapped manifest

/-- Enums have constants and no fields, other classes have no constants. -/
structure ClassDeclaration.FitsKind (decl : ClassDeclaration) : Prop where
  constants : decl.kind = .enumeration → ∀ constant ∈ decl.constants, Java.IsDeclarable constant
  unfielded : decl.kind = .enumeration → decl.fields = []
  unlisted : decl.kind ≠ .enumeration → decl.constants = []

structure ClassDeclaration.WellFormed (manifest : Manifest) (decl : ClassDeclaration) : Prop where
  superclass : ∀ name, decl.superclass = some name → Java.IsClassName name
  members : decl.FitsKind
  fields : ∀ field ∈ decl.fields, field.WellFormed manifest
  distinct : (decl.fields.map (·.name)).Nodup
  overrides : Overrides.WellFormed manifest decl.overrides

structure Manifest.WellFormed (manifest : Manifest) : Prop where
  database : manifest.database.WellFormed
  converters : ∀ entry ∈ manifest.converters, ConverterDeclaration.WellFormed entry.1 entry.2
  names : ∀ decl ∈ manifest.classes, Java.IsClassName decl.name
  distinct : (manifest.classes.map (·.name)).Nodup
  classes : ∀ decl ∈ manifest.classes, decl.WellFormed manifest

namespace Manifest

variable {manifest : Manifest} {locator : Locator}

/-- A check that asks the same of each element, whatever stands before it. -/
theorem checkEach_eq_ok {α : Type} {check : List α → α → Except Diagnostic Unit} {good : α → Prop}
    (step : ∀ before a, check before a = .ok () ↔ good a) {before list : List α} :
    checkEach check before list = .ok () ↔ ∀ a ∈ list, good a := by
  induction list generalizing before with
  | nil => simp [checkEach]
  | cons a rest ih => rw [checkEach, andThen_eq_ok, step, ih, List.forall_mem_cons]

/-- A check that also refuses a name met before lets through only names that differ. -/
theorem checkEach_fresh_eq_ok {α : Type} {check : List α → α → Except Diagnostic Unit}
    {good : α → Prop} {name : α → String}
    (step : ∀ before a, check before a = .ok () ↔ good a ∧ name a ∉ before.map name)
    {before list : List α} :
    checkEach check before list = .ok () ↔
      (∀ a ∈ list, good a) ∧ (list.map name).Nodup ∧ ∀ a ∈ list, name a ∉ before.map name := by
  induction list generalizing before with
  | nil => simp [checkEach]
  | cons a rest ih =>
    have unmet : (∀ b ∈ rest, name b ∉ name a :: before.map name) ↔
        name a ∉ rest.map name ∧ ∀ b ∈ rest, name b ∉ before.map name := by
      simp only [List.mem_cons, not_or, forall₂_and, List.mem_map, not_exists, not_and]
    rw [checkEach, andThen_eq_ok, step, ih, List.map_cons, unmet, List.map_cons, List.nodup_cons,
      List.forall_mem_cons, List.forall_mem_cons]
    tauto

theorem checkDialect_eq_ok {dialect : String} :
    checkDialect locator dialect = .ok () ↔
      ∀ c ∈ dialect.toList, c.isAlphanum = true ∨ c = '_' := by
  have spelled : dialect.toList.all isDialectChar = true ↔
      ∀ c ∈ dialect.toList, c.isAlphanum = true ∨ c = '_' := by
    simp [List.all_eq_true, isDialectChar]
  rw [checkDialect, ← spelled]
  cases dialect.toList.all isDialectChar <;> simp

theorem checkOptionalName_eq_ok {name : Option String} {kind : String} :
    checkOptionalName locator name kind = .ok () ↔
      ∀ given, name = some given → Java.IsClassName given := by
  cases name with
  | none => simp [checkOptionalName]
  | some given => simp [checkOptionalName, Locator.checkQualifiedName_eq_ok]

theorem checkDatabase_eq_ok {options : DatabaseOptions} :
    checkDatabase locator options = .ok () ↔ options.WellFormed := by
  rw [checkDatabase, andThen_eq_ok, andThen_eq_ok, checkDialect_eq_ok, checkOptionalName_eq_ok,
    checkOptionalName_eq_ok]
  exact ⟨fun ⟨dialect, package, tables⟩ => ⟨dialect, package, tables⟩,
    fun valid => ⟨valid.dialect, valid.package, valid.tablesClass⟩⟩

theorem checkConverter_eq_ok {name : String} {decl : ConverterDeclaration} :
    checkConverter locator name decl = .ok () ↔ decl.WellFormed name := by
  rw [checkConverter, andThen_eq_ok, andThen_eq_ok, Locator.checkQualifiedName_eq_ok,
    Locator.checkType_eq_ok, Locator.checkType_eq_ok]
  exact ⟨fun ⟨named, source, target⟩ => ⟨named, source, target⟩,
    fun valid => ⟨valid.name, valid.fromType, valid.toType⟩⟩

theorem checkFresh_eq_ok {kind name : String} {before : List String} :
    checkFresh locator kind name before = .ok () ↔ name ∉ before := by
  rw [checkFresh, ← List.contains_iff_mem]
  cases before.contains name <;> simp

theorem checkClassName_eq_ok {before : List ClassDeclaration} {decl : ClassDeclaration} :
    checkClassName locator before decl = .ok () ↔
      Java.IsClassName decl.name ∧ decl.name ∉ before.map (·.name) := by
  rw [checkClassName, andThen_eq_ok, Locator.checkQualifiedName_eq_ok, checkFresh_eq_ok]

theorem checkConverterReference_eq_ok {options : ColumnOptions} :
    checkConverterReference manifest locator options = .ok () ↔
      manifest.metadata.Knows options := by
  rw [checkConverterReference, Metadata.Knows]
  cases options.converter with
  | none => simp
  | some name =>
    have declared : manifest.converters.contains name = (manifest.metadata.converter? name).isSome :=
      rfl
    simp only [Option.some.injEq, forall_eq', declared]
    cases (manifest.metadata.converter? name).isSome <;> simp

theorem checkOverridePath_eq_ok {path : String} :
    checkOverridePath locator path = .ok () ↔
      ∀ part ∈ Text.segments '.' path, Java.isIdentifier part = true := by
  rw [checkOverridePath, ← List.all_eq_true]
  cases (Text.segments '.' path).all Java.isIdentifier <;> simp

theorem checkOverrides_eq_ok {overrides : Overrides} :
    checkOverrides manifest locator overrides = .ok () ↔ overrides.WellFormed manifest :=
  checkEach_eq_ok fun _ entry => by
    rw [andThen_eq_ok, checkOverridePath_eq_ok, checkConverterReference_eq_ok]

theorem checkMapping_eq_ok {field : FieldDeclaration} :
    checkMapping manifest locator field = .ok () ↔ field.WellMapped manifest := by
  have column : manifest.metadata.Knows (field.column.getD .unset) ↔
      ∀ options, field.column = some options → manifest.metadata.Knows options := by
    cases field.column with
    | none => simp [Metadata.Knows, ColumnOptions.unset]
    | some options => simp
  have undeclared : manifest.classes.all (·.name != field.type) = true ↔
      ¬ ∃ decl ∈ manifest.classes, decl.name = field.type := by simp
  rw [checkMapping, andThen_eq_ok, checkConverterReference_eq_ok, column]
  cases embeds : field.embedded with
  | none =>
    exact ⟨fun ⟨known, _⟩ => ⟨known, by simp [embeds], by simp [embeds], by simp [embeds]⟩,
      fun valid => ⟨valid.column, rfl⟩⟩
  | some inner =>
    constructor
    · rintro ⟨known, rest⟩
      dsimp only at rest
      split at rest
      · cases rest
      · rename_i unmixed
        split at rest
        · cases rest
        · rename_i declared
          rw [undeclared, not_not] at declared
          refine ⟨known, fun _ => by simpa using unmixed, fun _ => declared, fun other same => ?_⟩
          cases embeds.symm.trans same
          exact checkOverrides_eq_ok.mp rest
    · rintro ⟨known, unmixed, declared, overrides⟩
      have single : ¬ field.column.isSome = true := by simp [unmixed (by simp [embeds])]
      have found : ¬ manifest.classes.all (·.name != field.type) = true :=
        fun absent => undeclared.mp absent (declared (by simp [embeds]))
      refine ⟨known, ?_⟩
      dsimp only
      rw [if_neg single, if_neg found]
      exact checkOverrides_eq_ok.mpr (overrides inner embeds)

theorem checkField_eq_ok {className : String} {before : List FieldDeclaration}
    {field : FieldDeclaration} :
    checkField manifest locator className before field = .ok () ↔
      field.WellFormed manifest ∧ field.name ∉ before.map (·.name) := by
  rw [checkField, andThen_eq_ok, andThen_eq_ok, andThen_eq_ok, Locator.checkName_eq_ok,
    Locator.checkType_eq_ok, checkFresh_eq_ok, checkMapping_eq_ok]
  exact ⟨fun ⟨named, typed, fresh, mapped⟩ => ⟨⟨named, typed, mapped⟩, fresh⟩,
    fun ⟨valid, fresh⟩ => ⟨valid.name, valid.type, fresh, valid.mapping⟩⟩

theorem checkMembers_eq_ok {decl : ClassDeclaration} :
    checkMembers locator decl = .ok () ↔ decl.FitsKind := by
  rw [checkMembers]
  by_cases enum : decl.kind = .enumeration
  · have listed : checkEach (fun _ constant => locator.checkName constant "enum constant") []
        decl.constants = .ok () ↔ ∀ constant ∈ decl.constants, Java.IsDeclarable constant := by
      refine checkEach_eq_ok fun _ _ => ?_
      exact Locator.checkName_eq_ok
    rw [if_pos enum, andThen_eq_ok, listed]
    constructor
    · rintro ⟨constants, rest⟩
      refine ⟨fun _ => constants, fun _ => ?_, fun other => absurd enum other⟩
      by_contra fielded
      simp [fielded] at rest
    · rintro ⟨constants, unfielded, -⟩
      exact ⟨constants enum, by simp [unfielded enum]⟩
  · rw [if_neg enum]
    constructor
    · intro rest
      refine ⟨fun other => absurd other enum, fun other => absurd other enum, fun _ => ?_⟩
      by_contra listed
      simp [listed] at rest
    · rintro ⟨-, -, unlisted⟩
      simp [unlisted enum]

theorem checkClass_eq_ok {decl : ClassDeclaration} :
    checkClass manifest locator decl = .ok () ↔ decl.WellFormed manifest := by
  have fields : checkEach (checkField manifest locator decl.name) [] decl.fields = .ok () ↔
      (∀ field ∈ decl.fields, field.WellFormed manifest) ∧ (decl.fields.map (·.name)).Nodup := by
    rw [checkEach_fresh_eq_ok fun _ _ => checkField_eq_ok]
    simp
  rw [checkClass, andThen_eq_ok, andThen_eq_ok, andThen_eq_ok, checkOptionalName_eq_ok,
    checkMembers_eq_ok, fields, checkOverrides_eq_ok]
  exact ⟨fun ⟨superclass, members, ⟨fields, distinct⟩, overrides⟩ =>
      ⟨superclass, members, fields, distinct, overrides⟩,
    fun valid => ⟨valid.superclass, valid.members, ⟨valid.fields, valid.distinct⟩,
      valid.overrides⟩⟩

/-- Validation accepts exactly the well-formed manifests. -/
theorem validate_eq_ok {source file : String} :
    manifest.validate source file = .ok () ↔ manifest.WellFormed := by
  have converters (locator : Locator) :
      checkEach (fun _ (entry : String × ConverterDeclaration) =>
        checkConverter locator entry.1 entry.2) [] manifest.converters = .ok () ↔
        ∀ entry ∈ manifest.converters, ConverterDeclaration.WellFormed entry.1 entry.2 := by
    refine checkEach_eq_ok fun _ _ => ?_
    exact checkConverter_eq_ok
  have names (locator : Locator) :
      checkEach (checkClassName locator) [] manifest.classes = .ok () ↔
        (∀ decl ∈ manifest.classes, Java.IsClassName decl.name) ∧
          (manifest.classes.map (·.name)).Nodup := by
    rw [checkEach_fresh_eq_ok fun _ _ => checkClassName_eq_ok]
    simp
  have classes (locator : Locator) :
      checkEach (checkDeclaration manifest locator) [] manifest.classes = .ok () ↔
        ∀ decl ∈ manifest.classes, decl.WellFormed manifest := by
    refine checkEach_eq_ok fun _ _ => ?_
    exact checkClass_eq_ok
  rw [validate, andThen_eq_ok, andThen_eq_ok, andThen_eq_ok, checkDatabase_eq_ok, converters, names,
    classes]
  exact ⟨fun ⟨database, converters, ⟨names, distinct⟩, classes⟩ =>
      ⟨database, converters, names, distinct, classes⟩,
    fun valid => ⟨valid.database, valid.converters, ⟨valid.names, valid.distinct⟩, valid.classes⟩⟩

end Manifest

end EntityMapper
