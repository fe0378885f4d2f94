import EntityMapper.Extraction.FieldPath
import EntityMapper.Extraction.Override
import EntityMapper.Metadata.Source

/-!
# Walking the fields of a class

The walk lists the fields a class stores, in declaration order and through every embedded field,
and notes where an embedded type is unknown or encloses itself. It knows nothing of types or
column names. Every level of embedding opens a declared class that is not open yet, so a budget
of one level per declared class is never used up.
-/
namespace EntityMapper

/-- What the walk meets. -/
inductive Visit where
  /-- A field that is neither static, transient nor embedded, with the overrides for it. -/
  | leaf (path : FieldPath) (overrides : Option ColumnOptions)
  | unknownClass (name referencedBy : String)
  | cycle (className path : String)
  deriving DecidableEq, Repr

/-- A class whose fields are being walked. -/
structure Frame where
  owner : String
  site : Site
  layers : List OverrideLayer
  /-- The classes entered and not left, innermost first. -/
  entered : List String
  fields : List FieldDeclaration

/-- The contribution of an embedded field to column names: its overriding name, its declared
name, or else its own. -/
def embeddedFragment (field : FieldDeclaration) (overrides : Option ColumnOptions) : String :=
  ((overrides.bind (·.name)) <|> (field.column.bind (·.name))).getD field.name

/-- The frame of an embedded field's class inside `frame`. -/
def Frame.embed (frame : Frame) (field : FieldDeclaration) (inner : Overrides)
    (decl : ClassDeclaration) (varName fragment : String) : Frame where
  owner := decl.name
  site := frame.site.inside ⟨field.name, field.type, varName⟩ fragment
  layers := frame.layers ++ [⟨inner, frame.site.path.length + 1⟩]
  entered := field.type :: frame.entered
  fields := decl.fields

/-- One field: skipped, listed, or walked through by `descend`. -/
def visitField (metadata : Metadata) (descend : Frame → Variables → List Visit × Variables)
    (frame : Frame) (field : FieldDeclaration) (vars : Variables) :
    List Visit × Variables :=
  if field.isStatic || field.isTransient then ([], vars)
  else
    let path : FieldPath := ⟨frame.site, field⟩
    let overrides := mergedOverride frame.layers path.names
    match field.embedded with
    | none => ([.leaf path overrides], vars)
    | some inner =>
      match metadata.class? field.type with
      | none => ([.unknownClass field.type (frame.owner ++ "." ++ field.name)], vars)
      | some decl =>
        if field.type ∈ frame.entered then ([.cycle field.type path.dotted], vars)
        else
          let (varName, vars) := vars.allocate field.type
          descend (frame.embed field inner decl varName (embeddedFragment field overrides))
            vars

/-- The fields in order, each starting from the variables the one before it left. -/
def visitFields (visit : FieldDeclaration → Variables → List Visit × Variables) :
    List FieldDeclaration → Variables → List Visit × Variables
  | [], vars => ([], vars)
  | field :: rest, vars =>
    let (here, vars) := visit field vars
    let (there, vars) := visitFields visit rest vars
    (here ++ there, vars)

/-- All visits of a frame, to at most `budget` levels. -/
def walk (metadata : Metadata) : (budget : Nat) → Frame → Variables → List Visit × Variables
  | 0, _, vars => ([], vars)
  | budget + 1, frame, vars =>
    visitFields (visitField metadata (walk metadata budget) frame) frame.fields vars

/-- One level for the class itself and one for every declared class. -/
def Metadata.walkBudget (metadata : Metadata) : Nat :=
  metadata.classes.length + 1

/-- The frame of the fields that `level` itself declares, for a table of class `root`. The
overrides of `root` come before those of `level`. -/
def levelFrame (level root : ClassDeclaration) : Frame where
  owner := level.name
  site := {}
  layers := ⟨root.overrides, 0⟩ :: if level.name = root.name then [] else [⟨level.overrides, 0⟩]
  entered := [level.name]
  fields := level.fields

/-- The classes from `decl` upward, each class once, ending where a superclass is missing or not
declared. -/
def lineageFrom (metadata : Metadata) : (budget : Nat) → List String → ClassDeclaration →
    List ClassDeclaration
  | 0, _, _ => []
  | budget + 1, visited, decl =>
    if decl.name ∈ visited then []
    else
      decl :: match decl.superclass.bind metadata.class? with
        | none => []
        | some parent => lineageFrom metadata budget (decl.name :: visited) parent

/-- The levels whose fields a table of the class has: the class, and with inheritance its
superclasses. -/
def lineage (metadata : Metadata) (decl : ClassDeclaration) (inheritance : Bool) :
    List ClassDeclaration :=
  if inheritance then lineageFrom metadata metadata.walkBudget [] decl else [decl]

/-- The visits of each level, variables numbered on from level to level. -/
def walkLevels (metadata : Metadata) (root : ClassDeclaration) :
    List ClassDeclaration → Variables → List (List Visit)
  | [], _ => []
  | level :: rest, vars =>
    let (visits, vars) := walk metadata metadata.walkBudget (levelFrame level root) vars
    visits :: walkLevels metadata root rest vars

end EntityMapper
