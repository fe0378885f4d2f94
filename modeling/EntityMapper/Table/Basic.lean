import EntityMapper.Table.Column

/-!
# Tables

A table keeps its columns ascending by name; columns of one name keep the order they were given
in.
-/
namespace EntityMapper

structure Table where
  schema : SchemaName
  name : String
  className : String
  mappingEnabled : Bool
  columns : List Column
  columns_sorted : columns.Pairwise (fun a b => a.name ≤ b.name)

namespace Table

def nameLe (a b : Column) : Bool :=
  decide (a.name ≤ b.name)

theorem pairwise_mergeSort_name (columns : List Column) :
    (columns.mergeSort nameLe).Pairwise (fun a b => a.name ≤ b.name) := by
  have sorted : (columns.mergeSort nameLe).Pairwise (fun a b => nameLe a b) :=
    List.pairwise_mergeSort
      (fun a b c hab hbc => by
        simp only [nameLe, decide_eq_true_eq] at *
        exact String.le_trans hab hbc)
      (fun a b => by
        simpa [nameLe] using String.le_total a.name b.name)
      columns
  exact sorted.imp (fun h => by simpa [nameLe] using h)

/-- The table of the given columns, whatever their order. -/
def ofColumns (schema : SchemaName) (name className : String) (mappingEnabled : Bool)
    (columns : List Column) : Table where
  schema := schema
  name := name
  className := className
  mappingEnabled := mappingEnabled
  columns := columns.mergeSort nameLe
  columns_sorted := pairwise_mergeSort_name columns

theorem ofColumns_perm (schema : SchemaName) (name className : String) (mappingEnabled : Bool)
    (columns : List Column) :
    (ofColumns schema name className mappingEnabled columns).columns.Perm columns :=
  List.mergeSort_perm columns nameLe

theorem mem_ofColumns {schema : SchemaName} {name className : String} {mappingEnabled : Bool}
    {columns : List Column} {column : Column} :
    column ∈ (ofColumns schema name className mappingEnabled columns).columns ↔ column ∈ columns :=
  (ofColumns_perm schema name className mappingEnabled columns).mem_iff

/-- Halves ascending columns until at most one is left. The upper half stays where its first column
comes at or before the name, so of several columns with one name the last stays. -/
def bisect (name : String) (columns : List Column) : Option Column :=
  if columns.length < 2 then columns.head?
  else if (columns.drop (columns.length / 2)).head?.any (fun column => decide (column.name ≤ name)) then
    bisect name (columns.drop (columns.length / 2))
  else bisect name (columns.take (columns.length / 2))
termination_by columns.length
decreasing_by
  · rw [List.length_drop]
    omega
  · rw [List.length_take]
    omega

/-- The column of that name; the last one if there are several. -/
def column? (table : Table) (name : String) : Option Column :=
  (bisect name table.columns).filter (·.name == name)

/-- The columns of the entity's own fields. -/
def directColumns (table : Table) : List Column :=
  table.columns.filter (!·.isEmbedded)

def embeddedColumns (table : Table) : List Column :=
  table.columns.filter (·.isEmbedded)

/-- Every converter of the columns once, ascending by key; of several with one key that of the
last column. -/
def converters (table : Table) : List Converter :=
  Converter.distinct (table.columns.filterMap (·.converter)).reverse

def constant (table : Table) : String :=
  constantName table.name

def simpleClassName (table : Table) : String :=
  Java.simpleName table.className

/-- Schema and table name joined by a point. -/
def qualifiedName (table : Table) : String :=
  table.schema.name ++ "." ++ table.name

end Table

end EntityMapper
