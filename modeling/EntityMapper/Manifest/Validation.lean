import EntityMapper.Manifest.Document
import EntityMapper.Manifest.Locator

/-!
# Validating manifests

A manifest is checked in a fixed order and the first fault is reported: the database options,
the converters, the names of the classes, and then each class with its fields and overrides. Each
class is looked for from its own declaration on, so that equal field names of different classes
are labelled in the right one.
-/
namespace EntityMapper.Manifest

def isDialectChar (c : Char) : Bool :=
  c.isAlphanum || c == '_'

/-- A dialect name, which may be empty, has letters, digits and `_` only. -/
def checkDialect (locator : Locator) (dialect : String) : Except Diagnostic Unit :=
  if dialect.toList.all isDialectChar then .ok ()
  else
    .error (locator.invalid dialect
      ("dialect '" ++ dialect ++ "' may only contain letters, digits and '_'"))

/-- Checks an optional qualified name. -/
def checkOptionalName (locator : Locator) (name : Option String) (kind : String) :
    Except Diagnostic Unit :=
  match name with
  | some name => locator.checkQualifiedName name kind
  | none => .ok ()

def checkDatabase (locator : Locator) (options : DatabaseOptions) : Except Diagnostic Unit := do
  checkDialect locator options.dialect
  checkOptionalName locator options.package "package"
  checkOptionalName locator options.tablesClass "tables class"

def checkConverter (locator : Locator) (name : String) (decl : ConverterDeclaration) :
    Except Diagnostic Unit := do
  locator.checkQualifiedName name "converter"
  let inner := (locator.inside name).anchoredAt name
  inner.checkType decl.fromType "converter 'from' type"
  inner.checkType decl.toType "converter 'to' type"

/-- Applies a check to each element together with the elements before it, latest first. -/
def checkEach {α : Type} (check : List α → α → Except Diagnostic Unit) (before : List α) :
    List α → Except Diagnostic Unit
  | [] => .ok ()
  | a :: rest => do
    check before a
    checkEach check (a :: before) rest

/-- A name that is among the earlier ones is a duplicate. -/
def checkFresh (locator : Locator) (kind name : String) (before : List String) :
    Except Diagnostic Unit :=
  if before.contains name then
    .error (locator.duplicate kind name (before.count name + 1))
  else .ok ()

def checkClassName (locator : Locator) (before : List ClassDeclaration) (decl : ClassDeclaration) :
    Except Diagnostic Unit := do
  locator.checkQualifiedName decl.name "class"
  checkFresh locator "class" decl.name (before.map (·.name))

/-- A converter that columns refer to must be declared. -/
def checkConverterReference (manifest : Manifest) (locator : Locator) (options : ColumnOptions) :
    Except Diagnostic Unit :=
  match options.converter with
  | none => .ok ()
  | some name =>
    if manifest.converters.contains name then .ok ()
    else
      .error (locator.invalid name
        ("converter '" ++ name ++ "' is not declared in [converters]"))

/-- The key of an override is a path of field names. -/
def checkOverridePath (locator : Locator) (path : String) : Except Diagnostic Unit :=
  if (Text.segments '.' path).all Java.isIdentifier then .ok ()
  else
    .error (locator.invalid path
      ("override path '" ++ path ++ "' must be dot-separated field names"))

def checkOverrides (manifest : Manifest) (locator : Locator) (overrides : Overrides) :
    Except Diagnostic Unit :=
  checkEach (fun _ (entry : String × ColumnOptions) => do
    checkOverridePath locator entry.1
    checkConverterReference manifest locator entry.2) [] overrides

/-- Checks the column options of a field and its embedding. -/
def checkMapping (manifest : Manifest) (locator : Locator) (field : FieldDeclaration) :
    Except Diagnostic Unit := do
  checkConverterReference manifest locator (field.column.getD .unset)
  match field.embedded with
  | none => .ok ()
  | some inner =>
    if field.column.isSome then
      .error (locator.invalid field.name
        ("embedded field '" ++ field.name
          ++ "' cannot declare column metadata; use overrides instead"))
    else if manifest.classes.all (·.name != field.type) then
      .error (locator.invalid field.type
        ("embedded type '" ++ field.type ++ "' is not declared in [[classes]]"))
    else checkOverrides manifest locator inner

def checkField (manifest : Manifest) (locator : Locator) (className : String)
    (before : List FieldDeclaration) (field : FieldDeclaration) : Except Diagnostic Unit := do
  locator.checkName field.name "field"
  locator.checkType field.type "field type"
  checkFresh locator ("field in '" ++ className ++ "'") field.name (before.map (·.name))
  checkMapping manifest (locator.inside field.name) field

/-- Only enums have constants, and they have no fields. -/
def checkMembers (locator : Locator) (decl : ClassDeclaration) : Except Diagnostic Unit :=
  if decl.kind = .enumeration then do
    checkEach (fun _ constant => locator.checkName constant "enum constant") [] decl.constants
    if decl.fields.isEmpty then .ok ()
    else .error (locator.invalid decl.name ("enum '" ++ decl.name ++ "' cannot declare fields"))
  else if decl.constants.isEmpty then .ok ()
  else
    .error (locator.invalid decl.name
      ("only enums declare constants, '" ++ decl.name ++ "' is not an enum"))

def checkClass (manifest : Manifest) (locator : Locator) (decl : ClassDeclaration) :
    Except Diagnostic Unit := do
  checkOptionalName locator decl.superclass "superclass"
  checkMembers locator decl
  checkEach (checkField manifest locator decl.name) [] decl.fields
  checkOverrides manifest locator decl.overrides

/-- Checks a class from the place of its own declaration on. -/
def checkDeclaration (manifest : Manifest) (locator : Locator) (before : List ClassDeclaration)
    (decl : ClassDeclaration) : Except Diagnostic Unit :=
  let place := (locator.spans decl.name)[(before.map (·.name)).count decl.name]?
  checkClass manifest ((locator.inside decl.name).anchoredAtSpan place) decl

/-- The first fault of a manifest read from the given text. -/
def validate (manifest : Manifest) (source file : String) : Except Diagnostic Unit := do
  let locator : Locator := { source := source, file := file }
  checkDatabase locator manifest.database
  checkEach (fun _ (entry : String × ConverterDeclaration) =>
    checkConverter locator entry.1 entry.2) [] manifest.converters
  checkEach (checkClassName locator) [] manifest.classes
  checkEach (checkDeclaration manifest locator) [] manifest.classes

end EntityMapper.Manifest
