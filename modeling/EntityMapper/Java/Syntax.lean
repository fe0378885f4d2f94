import EntityMapper.Java.Name

/-!
# Java syntax for emitted sources

The parts of Java that mapper classes are made of. A statement wraps any element, so bodies hold
expressions, local variables and returns alike.
-/
namespace EntityMapper.Java

/-- A type as written: its element name, its type arguments and its array dimensions. -/
inductive TypeRef where
  | of (name : String) (arguments : List TypeRef) (dimensions : Nat)
  deriving Inhabited, Repr

namespace TypeRef

/-- Takes trailing pairs of brackets off reversed text and counts them. -/
def stripDimensions : List Char → List Char × Nat
  | ']' :: '[' :: rest =>
    let (name, dimensions) := stripDimensions rest
    (name, dimensions + 1)
  | name => (name, 0)

/-- Reads a type name with array brackets; the arguments belong to the element type. -/
def parse (text : String) (arguments : List TypeRef) : TypeRef :=
  let (name, dimensions) := stripDimensions text.toList.reverse
  .of (String.ofList name.reverse) arguments dimensions

/-- A type without arguments. -/
def named (text : String) : TypeRef :=
  parse text []

def name : TypeRef → String
  | of name _ _ => name

def arguments : TypeRef → List TypeRef
  | of _ arguments _ => arguments

def dimensions : TypeRef → Nat
  | of _ _ dimensions => dimensions

/-- The array type with `extra` more dimensions. -/
def array (extra : Nat) : TypeRef → TypeRef
  | of name arguments dimensions => of name arguments (dimensions + extra)

/-- The name as written: classes directly in `java.lang` stand without their package. -/
def writtenName (name : String) : String :=
  match Text.afterStart? "java.lang.".toList name.toList with
  | some simple => if simple.contains '.' then name else String.ofList simple
  | none => name

mutual

/-- The type as it stands in source. -/
def text : TypeRef → String
  | of name arguments dimensions =>
    writtenName name
      ++ (match arguments with
          | [] => ""
          | first :: rest => "<" ++ text first ++ argumentsText rest ++ ">")
      ++ String.join (List.replicate dimensions "[]")

/-- The arguments after the first. -/
def argumentsText : List TypeRef → String
  | [] => ""
  | argument :: rest => ", " ++ text argument ++ argumentsText rest

end

end TypeRef

inductive Expr where
  | name (identifier : String)
  | text (value : String)
  | classLiteral (type : TypeRef)
  | access (object : Expr) (member : String)
  | call (object : Option Expr) (method : String) (arguments : List Expr)
  | new (type : TypeRef) (arguments : List Expr)
  deriving Inhabited, Repr

/-- A method call on an object. -/
def Expr.send (object : Expr) (method : String) (arguments : List Expr) : Expr :=
  .call (some object) method arguments

inductive Visibility where
  | publicAccess | protectedAccess | privateAccess | packageAccess
  deriving DecidableEq, Repr

/-- Package access has no keyword. -/
def Visibility.keyword? : Visibility → Option String
  | publicAccess => some "public"
  | protectedAccess => some "protected"
  | privateAccess => some "private"
  | packageAccess => none

structure Parameter where
  type : TypeRef
  name : String
  deriving Repr

structure FieldMember where
  visibility : Visibility := .publicAccess
  isStatic : Bool := false
  isFinal : Bool := false
  type : TypeRef
  name : String
  initial : Option Expr := none
  deriving Repr

/-- A private constant. -/
def FieldMember.constant (type : TypeRef) (name : String) (initial : Expr) : FieldMember where
  visibility := .privateAccess
  isStatic := true
  isFinal := true
  type := type
  name := name
  initial := some initial

structure MethodHead where
  visibility : Visibility := .publicAccess
  isStatic : Bool := false
  name : String
  /-- No type is `void`. -/
  returns : Option TypeRef := none
  parameters : List Parameter := []
  deriving Repr

structure ClassHead where
  visibility : Visibility := .publicAccess
  isFinal : Bool := false
  name : String
  deriving DecidableEq, Repr

inductive Element where
  | typeRef (type : TypeRef)
  | expr (expr : Expr)
  | parameter (parameter : Parameter)
  | result (value : Option Expr)
  | statement (inner : Element)
  | localVar (type : TypeRef) (name : String) (initial : Option Expr)
  | field (field : FieldMember)
  /-- Every element of the body is a statement. -/
  | method (head : MethodHead) (body : List Element)
  | classBody (head : ClassHead) (members : List Element)
  deriving Inhabited, Repr

end EntityMapper.Java
