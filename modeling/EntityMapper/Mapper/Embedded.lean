import EntityMapper.Table.Basic

/-!
# Embedded objects of a table

The embedded columns of a table grouped into the objects that hold them. Objects are told apart
by variable and stand in order of first occurrence.
-/
namespace EntityMapper

inductive EmbeddedObject where
  | of (field : Embedding) (columns : List Column) (inner : List EmbeddedObject)
  deriving Repr

namespace EmbeddedObject

def field : EmbeddedObject → Embedding
  | of field _ _ => field

def columns : EmbeddedObject → List Column
  | of _ columns _ => columns

def inner : EmbeddedObject → List EmbeddedObject
  | of _ _ inner => inner

/-- Changes the object of the variable, or appends a new one for `field` and changes that. -/
def update (field : Embedding) (change : EmbeddedObject → EmbeddedObject) :
    List EmbeddedObject → List EmbeddedObject
  | [] => [change (.of field [] [])]
  | object :: rest =>
    if object.field.varName = field.varName then change object :: rest
    else object :: update field change rest

/-- Adds a column below the given embedded fields, outermost first. -/
def insert (column : Column) : List Embedding → List EmbeddedObject → List EmbeddedObject
  | [], objects => objects
  | [innermost], objects =>
    update innermost (fun | .of field columns inner => .of field (columns ++ [column]) inner) objects
  | outer :: parents, objects =>
    update outer (fun | .of field columns inner => .of field columns (insert column parents inner))
      objects

/-- The outermost embedded objects of the columns. -/
def ofColumns (columns : List Column) : List EmbeddedObject :=
  columns.foldl (fun objects column => insert column column.parents objects) []

end EmbeddedObject

end EntityMapper
