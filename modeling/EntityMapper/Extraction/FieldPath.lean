import EntityMapper.Java.Name
import EntityMapper.Metadata.Declaration
import EntityMapper.Table.Column

/-!
# Fields on their path from the entity

A site is a position inside zero or more embedded fields; a field path is a field at a site.
Variables of embedded fields are numbered per base name, which is the decapitalised simple name
of the embedded type.
-/
namespace EntityMapper

structure Site where
  /-- The embedded fields around the site, outermost first. -/
  parents : List Embedding := []
  /-- What those fields contribute to column names. -/
  fragments : List String := []
  /-- Their names. -/
  path : List String := []
  deriving DecidableEq, Repr

/-- Inside the embedded field `embedding`, which contributes `fragment` to column names. -/
def Site.inside (site : Site) (embedding : Embedding) (fragment : String) : Site where
  parents := site.parents ++ [embedding]
  fragments := site.fragments ++ [fragment]
  path := site.path ++ [embedding.fieldName]

structure FieldPath where
  site : Site
  field : FieldDeclaration
  deriving DecidableEq, Repr

namespace FieldPath

/-- Field names from the entity's own field down to this one. -/
def names (path : FieldPath) : List String :=
  path.site.path ++ [path.field.name]

def dotted (path : FieldPath) : String :=
  Text.joinWith "." path.names

end FieldPath

/-- The base names that have had a variable, latest first. -/
structure Variables where
  taken : List String := []
  deriving DecidableEq, Repr

/-- The base name followed by how many variables it now has. -/
def Variables.allocate (vars : Variables) (typeName : String) : String × Variables :=
  let base := Java.decapitalize (Java.simpleName typeName)
  (base ++ Nat.repr (vars.taken.count base + 1), ⟨base :: vars.taken⟩)

/-- The variables of several types, one after the other. -/
def Variables.allocateAll (typeNames : List String) (vars : Variables) : List String :=
  match typeNames with
  | [] => []
  | typeName :: rest =>
    let (varName, vars) := vars.allocate typeName
    varName :: allocateAll rest vars

end EntityMapper
