import EntityMapper.Entries
import EntityMapper.Naming.Strategy
import EntityMapper.Table.Column

/-!
# Scopes of named settings

A scope is a stack of layers of typed settings. A setting is looked up by name alone: the
nearest layer that has the name decides, and if its value is of another kind than asked for
there is no answer. Scopes are values; entering or setting leaves the scope it starts from as it
was. Any type may serve for the kinds if its members can be told apart; the extraction of tables has
`SettingKind`.
-/
namespace EntityMapper

/-- Members of `κ` are kinds of values, each with the type of its values. -/
class ValueKind (κ : Type) where
  Carrier : κ → Type

inductive SettingKind where
  | text | number | flag | strategy | schema
  deriving DecidableEq, Repr

/-- The values of a kind. -/
abbrev SettingKind.Carrier : SettingKind → Type
  | .text => String
  | .number => Int
  | .flag => Bool
  | .strategy => NamingStrategy
  | .schema => SchemaName

instance : ValueKind SettingKind := ⟨SettingKind.Carrier⟩

structure Setting (κ : Type) [ValueKind κ] where
  kind : κ
  value : ValueKind.Carrier kind

namespace Setting

variable {κ : Type} [ValueKind κ] [DecidableEq κ] {kind : κ} {setting : Setting κ}

/-- The value, if it is of the given kind. -/
def as? (kind : κ) (setting : Setting κ) : Option (ValueKind.Carrier kind) :=
  if h : setting.kind = kind then some (h ▸ setting.value) else none

theorem as?_eq_some {value : ValueKind.Carrier kind} :
    setting.as? kind = some value ↔ setting = ⟨kind, value⟩ := by
  obtain ⟨held, stored⟩ := setting
  by_cases same : held = kind
  · subst same
    simp [as?]
  · simp [as?, same]

theorem as?_eq_none : setting.as? kind = none ↔ setting.kind ≠ kind := by
  rw [as?]
  split <;> simp [*]

end Setting

/-- A name together with the kind of value wanted under it. -/
structure SettingKey (κ : Type := SettingKind) where
  name : String
  kind : κ
  deriving DecidableEq, Repr

namespace SettingKey

abbrev strategy : SettingKey := ⟨"naming_strategy", .strategy⟩
abbrev dialect : SettingKey := ⟨"dialect", .text⟩
abbrev database : SettingKey := ⟨"database", .text⟩
abbrev package : SettingKey := ⟨"package", .text⟩
abbrev schema : SettingKey := ⟨"schema", .schema⟩
abbrev tableName : SettingKey := ⟨"table_name", .text⟩

end SettingKey

structure Scope (κ : Type := SettingKind) [ValueKind κ] where
  nearest : Entries (Setting κ) := []
  /-- The layers around the nearest one, from the inside out. -/
  outer : List (Entries (Setting κ)) := []

namespace Scope

variable {κ : Type} [ValueKind κ]

def empty : Scope κ := {}

/-- Sets a value in the nearest layer, whatever stood under the name there. -/
def set (scope : Scope κ) (key : SettingKey κ) (value : ValueKind.Carrier key.kind) : Scope κ :=
  { scope with nearest := Entries.insert key.name ⟨key.kind, value⟩ scope.nearest }

/-- A new, empty layer inside all layers of `scope`. -/
def enter (scope : Scope κ) : Scope κ :=
  ⟨[], scope.nearest :: scope.outer⟩

def layers (scope : Scope κ) : List (Entries (Setting κ)) :=
  scope.nearest :: scope.outer

/-- What the nearest layer that has the name holds under it. -/
def lookup (scope : Scope κ) (name : String) : Option (Setting κ) :=
  scope.layers.findSome? (·.get? name)

def get [DecidableEq κ] (scope : Scope κ) (key : SettingKey κ) :
    Option (ValueKind.Carrier key.kind) :=
  (scope.lookup key.name).bind (·.as? key.kind)

def contains [DecidableEq κ] (scope : Scope κ) (key : SettingKey κ) : Bool :=
  (scope.get key).isSome

def depth (scope : Scope κ) : Nat :=
  scope.layers.length

/-- The nearest layer decides; what is not set there is as before. -/
theorem lookup_set (scope : Scope κ) (key : SettingKey κ) (value : ValueKind.Carrier key.kind)
    (name : String) : (scope.set key value).lookup name =
      if key.name = name then some ⟨key.kind, value⟩ else scope.lookup name := by
  by_cases equal : key.name = name <;>
    simp [lookup, layers, set, Entries.get?_insert, equal, List.findSome?_cons]

section Answers

variable [DecidableEq κ] (scope : Scope κ) {key : SettingKey κ} (value : ValueKind.Carrier key.kind)

@[simp] theorem get_empty : (empty : Scope κ).get key = none := rfl

/-- A new layer hides nothing. -/
@[simp] theorem get_enter : scope.enter.get key = scope.get key := rfl

@[simp] theorem get_set : (scope.set key value).get key = some value := by
  simp [get, lookup_set, Setting.as?_eq_some]

theorem get_set_of_ne {asked : SettingKey κ} (other : key.name ≠ asked.name) :
    (scope.set key value).get asked = scope.get asked := by
  simp [get, lookup_set, other]

end Answers

end Scope

end EntityMapper
