/-!
# Why a table cannot be built

Every cause that stops the extraction of a table, and its wording.
-/
namespace EntityMapper

inductive MappingError where
  /-- The dialect, spelled as in the query, has no entry for the requested type or literal. -/
  | typeNotFound (dialect requested : String)
  | strategyNotRegistered (name : String)
  | strategyFailed (name reason : String)
  | converterNotDeclared (name : String)
  | unknownClass (name referencedBy : String)
  | embeddingCycle (className path : String)
  | duplicateColumn (table column : String)
  deriving DecidableEq, Repr

namespace MappingError

/-- How the dialect of an error is shown: the unnamed dialect is the default one. -/
def dialectLabel (dialect : String) : String :=
  if dialect = "" then "DEFAULT" else dialect

def message : MappingError → String
  | typeNotFound dialect requested =>
    "type '" ++ requested ++ "' not found for dialect '" ++ dialectLabel dialect ++ "'"
  | strategyNotRegistered name =>
    "failed to construct naming strategy '" ++ name ++ "': no strategy registered under this name"
  | strategyFailed name reason =>
    "failed to construct naming strategy '" ++ name ++ "': " ++ reason
  | converterNotDeclared name =>
    "failed to construct converter '" ++ name ++ "': converter is not declared"
  | unknownClass name referencedBy =>
    "class '" ++ name ++ "' referenced by '" ++ referencedBy ++ "' is not declared"
  | embeddingCycle className path =>
    "embedding cycle through '" ++ className ++ "' at '" ++ path ++ "'"
  | duplicateColumn table column =>
    "duplicate column '" ++ column ++ "' in table '" ++ table ++ "'"

/-- The error under the name by which a query called the dialect. -/
def asQueried (dialect : String) : MappingError → MappingError
  | typeNotFound _ requested => typeNotFound dialect requested
  | other => other

/-- Only a missing type or dialect counts as not found. -/
def isNotFound : MappingError → Bool
  | typeNotFound .. => true
  | _ => false

end MappingError

end EntityMapper
