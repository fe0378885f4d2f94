import EntityMapper.Java.Name
import EntityMapper.Manifest.Diagnostic

/-!
# Locating names in a manifest

A locator knows the text of a manifest, the declarations around the one being looked at, and an
anchor before which nothing is looked for. A name is found where it is assigned to `name`, or
else, if that occurs nowhere in the text, wherever it stands between quotes.
-/
namespace EntityMapper

/-- The offsets at which `pattern` occurs, found from the left without overlaps. Characters still
to be skipped belong to the occurrence found last. -/
def occurrencesFrom (pattern : List Char) : (offset skip : Nat) → List Char → List Nat
  | _, _, [] => []
  | offset, skip + 1, c :: rest => occurrencesFrom pattern (offset + c.utf8Size) skip rest
  | offset, 0, c :: rest =>
    if pattern.isPrefixOf (c :: rest) then
      offset :: occurrencesFrom pattern (offset + c.utf8Size) (pattern.length - 1) rest
    else occurrencesFrom pattern (offset + c.utf8Size) 0 rest

def occurrences (pattern source : String) : List Nat :=
  occurrencesFrom pattern.toList 0 0 source.toList

/-- Where the name is assigned, or else where it is quoted. -/
def nameSpans (source name : String) : List Span :=
  if name = "" then []
  else
    let assigned := occurrences ("name = \"" ++ name ++ "\"") source
    if assigned.isEmpty then
      (occurrences ("\"" ++ name ++ "\"") source).map fun at_ =>
        ⟨at_ + 1, name.utf8ByteSize⟩
    else assigned.map fun at_ => ⟨at_ + 8, name.utf8ByteSize⟩

structure Locator where
  source : String
  file : String
  /-- Names of the declarations around, outermost first. -/
  path : List String := []
  anchor : Nat := 0
  deriving DecidableEq, Repr

namespace Locator

/-- Inside the declaration of that name. -/
def inside (locator : Locator) (name : String) : Locator :=
  { locator with path := locator.path ++ [name] }

def dottedPath (locator : Locator) : String :=
  Text.joinWith "." locator.path

/-- A kind of name together with where it is declared. -/
def contextFor (locator : Locator) (kind : String) : String :=
  if locator.path.isEmpty then kind else kind ++ " in '" ++ locator.dottedPath ++ "'"

/-- The places of a name from the anchor on. -/
def spans (locator : Locator) (name : String) : List Span :=
  (nameSpans locator.source name).filter (locator.anchor ≤ ·.offset)

def span? (locator : Locator) (name : String) : Option Span :=
  (locator.spans name).head?

/-- Anchored at a place; without one the anchor stays. -/
def anchoredAtSpan (locator : Locator) (span : Option Span) : Locator :=
  { locator with anchor := (span.map (·.offset)).getD locator.anchor }

/-- Anchored at the first place of a name. -/
def anchoredAt (locator : Locator) (name : String) : Locator :=
  locator.anchoredAtSpan (locator.span? name)

def invalid (locator : Locator) (name message : String) : Diagnostic :=
  .invalid locator.file (locator.span? name) message

/-- A name declared for the `occurrence`-th time. -/
def duplicate (locator : Locator) (kind name : String) (occurrence : Nat) : Diagnostic :=
  .duplicate locator.file (locator.span? name) ((locator.spans name)[occurrence - 1]?) kind name

/-- A reserved word, labelled where `located` stands. -/
def reservedWord (locator : Locator) (word located kind : String) : Diagnostic :=
  .reservedWord locator.file (locator.span? located) word (locator.contextFor kind)

def invalidName (locator : Locator) (name kind reason : String) : Diagnostic :=
  .invalidName locator.file (locator.span? name) name (locator.contextFor kind) reason

/-- Why a text is no identifier. -/
def identifierFault? (name : String) : Option String :=
  if name = "" then some "name cannot be empty"
  else if (name.toList.head?).any Char.isDigit then some "name cannot start with a digit"
  else if !Java.isIdentifier name then
    some "name contains characters that are not allowed in identifiers"
  else none

/-- A name must be an identifier and no reserved word. -/
def checkName (locator : Locator) (name kind : String) : Except Diagnostic Unit :=
  if Java.isReserved name then .error (locator.reservedWord name name kind)
  else
    match identifierFault? name with
    | some reason => .error (locator.invalidName name kind reason)
    | none => .ok ()

/-- Why a text is no qualified name. -/
def qualifiedNameFault? (name : String) : Option String :=
  if name = "" then some "name cannot be empty"
  else
    match (Text.segments '.' name).find? (!Java.isIdentifier ·) with
    | some segment =>
      if segment = "" then some "name contains an empty segment"
      else some ("segment '" ++ segment ++ "' is not a valid identifier")
    | none => none

/-- A qualified name must have no reserved word among its segments. -/
def checkQualifiedName (locator : Locator) (name kind : String) : Except Diagnostic Unit :=
  match qualifiedNameFault? name with
  | some reason => .error (locator.invalidName name kind reason)
  | none =>
    match (Text.segments '.' name).find? Java.isReserved with
    | some segment => .error (locator.reservedWord segment name kind)
    | none => .ok ()

/-- The element type of an array type of any dimension. -/
def elementType (type : String) : String :=
  String.ofList (go type.toList.reverse).reverse
where
  go : List Char → List Char
    | ']' :: '[' :: rest => go rest
    | name => name

/-- A type is a qualified name, reserved words admitted, or an array of one. -/
def isType (type : String) : Bool :=
  elementType type ≠ "" && Java.isQualifiedName (elementType type)

def checkType (locator : Locator) (type kind : String) : Except Diagnostic Unit :=
  if isType type then .ok ()
  else
    .error (locator.invalidName type kind
      "type must be a qualified class name, a primitive or an array of either")

end Locator

end EntityMapper
