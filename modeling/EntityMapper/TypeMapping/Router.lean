import EntityMapper.Entries
import EntityMapper.TypeMapping.Dialect

/-!
# Routing to dialects

Dialects are found by name without regard to ASCII case. A dialect registered under any spelling
of a known name takes the position of the earlier one. A dialect's own errors carry its own
spelling; those of the router name the dialect as the query spelled it.
-/
namespace EntityMapper

structure DialectRouter where
  table : Entries Dialect := []
  deriving DecidableEq, Repr

namespace DialectRouter

def register (router : DialectRouter) (dialect : Dialect) : DialectRouter :=
  ⟨Entries.insert (Text.asciiUpper dialect.name) dialect router.table⟩

def standard : DialectRouter :=
  ((⟨[]⟩ : DialectRouter).register .standard).register .postgres

/-- Names in order of first registration, each in its last spelling. -/
def dialects (router : DialectRouter) : List String :=
  router.table.values.map (·.name)

def dialect? (router : DialectRouter) (name : String) : Option Dialect :=
  router.table.get? (Text.asciiUpper name)

/-- The dialect of that name, for a query that asks it for a type or a literal. -/
def route (router : DialectRouter) (dialect requested : String) : Except MappingError Dialect :=
  match router.dialect? dialect with
  | some found => .ok found
  | none => .error (.typeNotFound dialect requested)

def sqlType (router : DialectRouter) (dialect : String) (type : FieldType) :
    Except MappingError String := do
  let found ← router.route dialect type.name
  (found.sqlType type).mapError (·.asQueried dialect)

def fieldType (router : DialectRouter) (dialect literal : String) :
    Except MappingError TypeKey := do
  let found ← router.route dialect literal
  (found.fieldType literal).mapError (·.asQueried dialect)

/-- Whether the type has a row in the dialect. -/
def maps (router : DialectRouter) (dialect : String) (type : FieldType) : Bool :=
  ((router.dialect? dialect).bind (·.sqlType? type)).isSome

variable (router : DialectRouter) (dialect : String)

/-- A type is missing as its dialect is or as the dialect has no row for it; the error is the same. -/
theorem sqlType_eq (type : FieldType) :
    router.sqlType dialect type =
      match (router.dialect? dialect).bind (·.sqlType? type) with
      | some sql => .ok sql
      | none => .error (.typeNotFound dialect type.name) := by
  rw [sqlType, route]
  cases router.dialect? dialect with
  | none => rfl
  | some found =>
    simp only [bind, Except.bind, Option.bind_some, Dialect.sqlType]
    cases found.sqlType? type <;> rfl

theorem fieldType_eq (literal : String) :
    router.fieldType dialect literal =
      match (router.dialect? dialect).bind (·.fieldType? literal) with
      | some key => .ok key
      | none => .error (.typeNotFound dialect literal) := by
  rw [fieldType, route]
  cases router.dialect? dialect with
  | none => rfl
  | some found =>
    simp only [bind, Except.bind, Option.bind_some, Dialect.fieldType]
    cases found.fieldType? literal <;> rfl

end DialectRouter

end EntityMapper
