import EntityMapper.Extraction.Mapping
import EntityMapper.Proofs.Java.Name

/-!
# Looking up types

A type and its box are looked up alike (`DialectRouter.sqlType_congr`), and the literal that a dialect
has for a type is one that it knows (`DialectRouter.exists_fieldType`), though the row found for the
literal may be another one.
-/
namespace EntityMapper

namespace Java

/-- No box is a primitive type. -/
theorem boxed_boxed (name : String) : boxed (boxed name) = boxed name := by
  have boxes : ∀ entry ∈ primitives, boxed entry.2 = entry.2 := by decide
  rcases boxed_eq_or_mem name with own | box
  · rw [own, own]
  · exact boxes (name, boxed name) box

end Java

theorem TypeKey.ofType_boxed (name : String) :
    ofType (.named (Java.boxed name)) = ofType (.named name) := by
  rw [ofType, ofType, ofName, ofName, Java.boxed_boxed]

namespace Dialect

variable {dialect : Dialect}

theorem sqlType_eq_ok {type : FieldType} {sql : String} :
    dialect.sqlType type = .ok sql ↔ dialect.sqlType? type = some sql := by
  rw [sqlType]
  cases dialect.sqlType? type <;> simp

theorem fieldType_eq_ok {literal : String} {key : TypeKey} :
    dialect.fieldType literal = .ok key ↔ dialect.fieldType? literal = some key := by
  rw [fieldType]
  cases dialect.fieldType? literal <;> simp

theorem sqlType?_congr {first second : FieldType}
    (same : TypeKey.ofType first = TypeKey.ofType second) :
    dialect.sqlType? first = dialect.sqlType? second := by
  rw [sqlType?, sqlType?, same]

theorem exists_fieldType?_iff {literal : String} :
    (∃ key, dialect.fieldType? literal = some key) ↔
      ∃ row ∈ dialect.rows, literalWords row.sql = literalWords literal := by
  rw [← Option.isSome_iff_exists]
  simp [fieldType?]

/-- The row of a type has the words of its own literal. -/
theorem exists_fieldType? {type : FieldType} {sql : String}
    (found : dialect.sqlType? type = some sql) : ∃ key, dialect.fieldType? sql = some key := by
  obtain ⟨row, listed, rfl⟩ := Option.map_eq_some_iff.mp found
  exact exists_fieldType?_iff.mpr ⟨row, List.mem_of_find?_eq_some listed, rfl⟩

end Dialect

namespace DialectRouter

variable {router : DialectRouter} {dialect : String}

theorem sqlType_eq_ok {type : FieldType} {sql : String} :
    router.sqlType dialect type = .ok sql ↔
      (router.dialect? dialect).bind (·.sqlType? type) = some sql := by
  rw [sqlType_eq]
  cases (router.dialect? dialect).bind (·.sqlType? type) <;> simp

theorem fieldType_eq_ok {literal : String} {key : TypeKey} :
    router.fieldType dialect literal = .ok key ↔
      (router.dialect? dialect).bind (·.fieldType? literal) = some key := by
  rw [fieldType_eq]
  cases (router.dialect? dialect).bind (·.fieldType? literal) <;> simp

/-- Types of one key have one SQL type. -/
theorem sqlType_congr {first second : FieldType}
    (same : TypeKey.ofType first = TypeKey.ofType second) {sql : String} :
    router.sqlType dialect first = .ok sql ↔ router.sqlType dialect second = .ok sql := by
  simp only [sqlType_eq_ok, Dialect.sqlType?_congr same]

/-- A dialect knows the literals that it has for types. -/
theorem exists_fieldType {type : FieldType} {sql : String}
    (typed : router.sqlType dialect type = .ok sql) :
    ∃ key, router.fieldType dialect sql = .ok key := by
  obtain ⟨table, routed, found⟩ := Option.bind_eq_some_iff.mp (sqlType_eq_ok.mp typed)
  obtain ⟨key, known⟩ := Dialect.exists_fieldType? found
  exact ⟨key, fieldType_eq_ok.mpr (Option.bind_eq_some_iff.mpr ⟨table, routed, known⟩)⟩

end DialectRouter

/-- Of all types, the standard defaults convert the declared enums. -/
theorem DefaultConverters.isSome_forType?_standard (library : QueryLibrary) (mapping : Mapping)
    (typeName : String) :
    ((standard library).forType? (mapping.fieldType typeName)).isSome =
      mapping.metadata.isEnum typeName := by
  rw [Mapping.fieldType]
  cases mapping.metadata.isEnum typeName <;> rfl

end EntityMapper
