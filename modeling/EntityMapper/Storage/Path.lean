import EntityMapper.Text.Segments

/-!
# Paths

Paths are text with `/` between components and are kept as given; joining never normalises.
Empty components and single points after the first component do not count as components.
-/
namespace EntityMapper.Path

/-- The most bytes a path can have. -/
def longest : Nat := 4095

/-- The most bytes a component can have. -/
def longestComponent : Nat := 255

def isAbsolute (path : String) : Bool :=
  path.toList.head? == some '/'

/-- `path` below `base`: an absolute path stands alone, and no separator is added to an empty
base or after one that ends with a separator. -/
def join (base path : String) : String :=
  if isAbsolute path then path
  else if base = "" || base.toList.getLast? == some '/' then base ++ path
  else base ++ "/" ++ path

/-- Takes components that do not count off the end of reversed text, with the separators before
them, leaving a leading component alone. -/
def trimEnd : List Char → List Char
  | '/' :: rest => if rest.isEmpty then ['/'] else trimEnd rest
  | '.' :: '/' :: rest => if rest.isEmpty then ['/'] else trimEnd rest
  | path => path

/-- The path without its last component; none for the empty path and the root. -/
def parent? (path : String) : Option String :=
  match trimEnd path.toList.reverse with
  | [] => none
  | ['/'] => none
  | trimmed =>
    some (String.ofList (trimEnd (trimmed.dropWhile (· != '/'))).reverse)

/-- The components along which a path is resolved. -/
def components (path : String) : List String :=
  (Text.segments '/' path).filter fun part => part ≠ "" && part ≠ "."

/-- Whether the path can only name a directory. -/
def namesDirectory (path : String) : Bool :=
  match (Text.segments '/' path).getLast? with
  | some last => last = "" || last = "." || last = ".."
  | none => true

end EntityMapper.Path
