import EntityMapper.Entries

/-!
# Declared classes

What classes declare about their relational mapping: table and schema names, column options of
single fields, embedded fields, and overrides of columns by dotted field path.
-/
namespace EntityMapper

inductive ClassKind where
  | entity | embeddable | enumeration
  deriving DecidableEq, Repr

/-- What may be said of a column. Whatever is absent falls to a weaker source. -/
structure ColumnOptions where
  name : Option String := none
  sqlType : Option String := none
  converter : Option String := none
  strategy : Option String := none
  deriving DecidableEq, Repr

namespace ColumnOptions

def unset : ColumnOptions := {}

/-- Each option of `upper` where it is set, else that of `lower`. -/
def orElse (upper lower : ColumnOptions) : ColumnOptions where
  name := upper.name <|> lower.name
  sqlType := upper.sqlType <|> lower.sqlType
  converter := upper.converter <|> lower.converter
  strategy := upper.strategy <|> lower.strategy

def isUnset (options : ColumnOptions) : Bool :=
  options.name.isNone && options.sqlType.isNone && options.converter.isNone
    && options.strategy.isNone

end ColumnOptions

/-- Column options by dotted field path. -/
abbrev Overrides := Entries ColumnOptions

structure FieldDeclaration where
  name : String
  type : String
  isStatic : Bool := false
  isTransient : Bool := false
  column : Option ColumnOptions := none
  /-- Present when the field is embedded, with the overrides declared at the embedding. -/
  embedded : Option Overrides := none
  deriving DecidableEq, Repr

structure TableOptions where
  name : Option String := none
  inheritance : Bool := false
  mapping : Bool := true
  strategy : Option String := none
  deriving DecidableEq, Repr

structure SchemaOptions where
  name : Option String := none
  strategy : Option String := none
  deriving DecidableEq, Repr

structure ClassDeclaration where
  name : String
  kind : ClassKind := .entity
  superclass : Option String := none
  schema : Option SchemaOptions := none
  table : Option TableOptions := none
  fields : List FieldDeclaration := []
  overrides : Overrides := []
  constants : List String := []
  deriving DecidableEq, Repr

/-- A declared value converter, known by its class name. -/
structure ConverterDeclaration where
  fromType : String
  toType : String
  generic : Bool := false
  deriving DecidableEq, Repr

namespace ClassDeclaration

def hasTable (decl : ClassDeclaration) : Bool :=
  decl.table.isSome

def field? (decl : ClassDeclaration) (name : String) : Option FieldDeclaration :=
  decl.fields.find? (·.name == name)

def addField (decl : ClassDeclaration) (field : FieldDeclaration) : ClassDeclaration :=
  { decl with fields := decl.fields ++ [field] }

def addOverride (decl : ClassDeclaration) (path : String) (options : ColumnOptions) :
    ClassDeclaration :=
  { decl with overrides := Entries.insert path options decl.overrides }

end ClassDeclaration

end EntityMapper
