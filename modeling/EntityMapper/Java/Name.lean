import EntityMapper.Text.Character
import EntityMapper.Text.Segments

/-!
# Java names

Identifiers, reserved words, qualified names and their parts, primitive types with their boxes,
and the accessor names of a property.
-/
namespace EntityMapper.Java

/-- Words that name no class, field or constant; literals and contextual words included. -/
def reservedWords : List String := [
  "abstract", "assert", "boolean", "break", "byte", "case", "catch", "char", "class", "const",
  "continue", "default", "do", "double", "else", "enum", "extends", "final", "finally", "float",
  "for", "goto", "if", "implements", "import", "instanceof", "int", "interface", "long",
  "native", "new", "package", "private", "protected", "public", "return", "short", "static",
  "strictfp", "super", "switch", "synchronized", "this", "throw", "throws", "transient", "try",
  "void", "volatile", "while", "true", "false", "null", "var", "record"]

def isReserved (word : String) : Bool :=
  reservedWords.contains word

def startsIdentifier (c : Char) : Bool :=
  Text.isAlphabetic c || c == '_' || c == '$'

def continuesIdentifier (c : Char) : Bool :=
  Text.isAlphanumeric c || c == '_' || c == '$'

/-- An alphabetic character, `_` or `$`, then any number of those and of numeric characters.
Reserved words are identifiers in this sense. -/
def isIdentifier (name : String) : Bool :=
  match name.toList with
  | [] => false
  | c :: rest => startsIdentifier c && rest.all continuesIdentifier

/-- Identifiers separated by single points. -/
def isQualifiedName (name : String) : Bool :=
  (Text.segments '.' name).all isIdentifier

/-- The class name without package and type arguments. -/
def simpleName (qualified : String) : String :=
  String.ofList (Text.afterLast '.' (Text.beforeFirst '<' qualified.toList))

/-- What stands before the last point; empty for the unnamed package. -/
def packageName (qualified : String) : String :=
  String.ofList (Text.beforeLast '.' qualified.toList)

/-- The innermost package. -/
def packageTail (qualified : String) : String :=
  simpleName (packageName qualified)

/-- A property as it stands after `get` and `set`: a name that begins with two capitals is an
acronym and goes to upper case as a whole, any other has its first letter raised. -/
def capitalize (property : String) : String :=
  match property.toList with
  | first :: second :: rest =>
    if Text.isUppercase first && Text.isUppercase second then Text.upper property
    else String.ofList (Text.upperCase first ++ second :: rest)
  | _ => Text.upper property

/-- The name with its first letter lowered. -/
def decapitalize (name : String) : String :=
  match name.toList with
  | [] => ""
  | first :: rest => String.ofList (Text.lowerCase first ++ rest)

def getterName (property : String) : String :=
  "get" ++ capitalize property

def setterName (property : String) : String :=
  "set" ++ capitalize property

/-- The primitive types, each with the class that boxes it. -/
def primitives : List (String × String) := [
  ("boolean", "java.lang.Boolean"), ("byte", "java.lang.Byte"), ("char", "java.lang.Character"),
  ("short", "java.lang.Short"), ("int", "java.lang.Integer"), ("long", "java.lang.Long"),
  ("float", "java.lang.Float"), ("double", "java.lang.Double")]

def isPrimitive (name : String) : Bool :=
  primitives.any (·.1 == name)

/-- The box of a primitive type; any other type is its own. -/
def boxed (name : String) : String :=
  (primitives.lookup name).getD name

end EntityMapper.Java
