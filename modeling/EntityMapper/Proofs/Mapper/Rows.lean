import EntityMapper.Proofs.Mapper.Evaluation
import EntityMapper.Proofs.Mapper.References
import EntityMapper.Proofs.Naming.Constants
import EntityMapper.Proofs.Updates

/-!
# Rows of mapped columns

What storing and reading columns does while the record is at hand and no variable hides a constant.
Stored columns are appended to the row in their order (`run_storeColumns`); columns that are read set
their properties on the object (`run_readColumns`).
-/
namespace EntityMapper

open Java (Datum Element Expr Memory Operand Runtime StoredRow)
open ToEntity (entityVariable recordVariable)

/-- The property of the field. -/
def Column.property (column : Column) : String :=
  Java.capitalize column.fieldName

def Table.columnKey (table : Table) (column : Column) : String × String :=
  (table.constant, column.constant)

theorem constantName_ne_variable (name : String) :
    constantName name ≠ recordVariable ∧ constantName name ≠ entityVariable := by
  constructor
  · exact constantName_ne (by decide) (by decide) name
  · exact constantName_ne (by decide) (by decide) name

/-- The constants that columns are passed with: that of the table and those of converters. -/
def MapperContext.Passes (context : MapperContext) (table : Table) (name : String) : Prop :=
  name = table.constant ∨ ∃ column ∈ table.columns, context.constant? table column = some name

theorem MapperContext.Passes.ne_variable {context : MapperContext} {table : Table} {name : String}
    (passes : context.Passes table name) : name ≠ recordVariable ∧ name ≠ entityVariable := by
  rcases passes with rfl | ⟨column, _, passed⟩
  · exact constantName_ne_variable table.name
  · obtain ⟨converter, _, rfl⟩ := Option.map_eq_some_iff.mp passed
    unfold converterConstant
    split
    · exact constantName_ne_variable _
    · split <;> exact constantName_ne_variable _

/-- What a record with the row gives for a column. -/
def readDatum {V : Type} (runtime : Runtime V) (context : MapperContext) (table : Table)
    (row : StoredRow V) (column : Column) : Datum V :=
  .plain (runtime.decode (context.constant? table column)
    (runtime.stored row (table.columnKey column)))

/-- What is stored in a record for a column whose property has the value. -/
def storedEntry {V : Type} (runtime : Runtime V) (context : MapperContext) (table : Table)
    (values : Column → V) (column : Column) : (String × String) × V :=
  (table.columnKey column, runtime.encode (context.constant? table column) (values column))

theorem lookup_of_nodup {α β : Type} [BEq α] [LawfulBEq α] {entries : List (α × β)}
    (distinct : (entries.map Prod.fst).Nodup) {key : α} {value : β}
    (member : (key, value) ∈ entries) : entries.lookup key = some value := by
  obtain ⟨before, behind, rfl⟩ := List.append_of_mem member
  rw [List.map_append, List.map_cons] at distinct
  refine List.lookup_eq_some_iff.mpr ⟨before, behind, rfl, fun entry inside => ?_⟩
  have apart := (List.nodup_append.mp distinct).2.2 entry.1 (List.mem_map_of_mem inside) key
    List.mem_cons_self
  simpa using apart.symm

/-- Where columns differ in constant, a row of their entries gives back what it was made from, if
reading undoes what converters wrote. -/
theorem readDatum_storedEntries {V : Type} {runtime : Runtime V} {context : MapperContext}
    {table : Table} {values : Column → V} {columns : List Column}
    (distinct : (columns.map Column.constant).Nodup)
    (undoes : ∀ column ∈ columns, ∀ constant ∈ context.constant? table column, ∀ value,
      (runtime.codec constant).read ((runtime.codec constant).write value) = value)
    {column : Column} (member : column ∈ columns) :
    readDatum runtime context table (columns.map (storedEntry runtime context table values)) column =
      .plain (values column) := by
  have keys : ((columns.map (storedEntry runtime context table values)).reverse.map
      Prod.fst).Nodup := by
    rw [List.map_reverse, List.nodup_reverse]
    apply List.Nodup.of_map Prod.snd
    simpa [Function.comp_def, storedEntry, Table.columnKey] using distinct
  have entry := List.mem_reverse.mpr
    (List.mem_map_of_mem (f := storedEntry runtime context table values) member)
  have found := lookup_of_nodup keys entry
  unfold readDatum Runtime.stored
  rw [found, Option.getD_some]
  cases passed : context.constant? table column with
  | none => rfl
  | some constant => simp [Runtime.decode, Runtime.encode, undoes column member constant passed]

/-- The variable of the record holds one with the row, and no variable hides a constant. -/
structure HoldsRow {V : Type} (context : MapperContext) (table : Table) (number : Nat)
    (row : StoredRow V) (memory : Memory V) : Prop where
  record : memory.locals.get? recordVariable = some (.record number)
  row : memory.records[number]? = some row
  free : ∀ name, context.Passes table name → memory.locals.get? name = none

section Steps

variable {V : Type} {runtime : Runtime V} {context : MapperContext} {table : Table}
  {memory after : Memory V} {number object : Nat} {row : StoredRow V}
  {properties : String → Datum V}

/-- Variables of the record and the entity hide no constant. -/
theorem holdsRow_of_names (record : memory.locals.get? recordVariable = some (.record number))
    (found : memory.records[number]? = some row)
    (names : ∀ name ∈ memory.locals.names, name = recordVariable ∨ name = entityVariable) :
    HoldsRow context table number row memory := by
  refine ⟨record, found, ?_⟩
  intro name passes
  have absent : name ∉ memory.locals.names := by
    intro member
    rcases names name member with same | same
    · exact passes.ne_variable.1 same
    · exact passes.ne_variable.2 same
  exact Entries.get?_eq_none.mpr absent

theorem HoldsRow.setRow (holds : HoldsRow context table number row memory)
    (other : StoredRow V) :
    HoldsRow context table number other (memory.setRow number other) where
  record := holds.record
  row := Memory.setRow_held holds.row
  free := holds.free

theorem HoldsRow.setObject (holds : HoldsRow context table number row memory)
    (object : Nat) (properties : String → Datum V) :
    HoldsRow context table number row (memory.setObject object properties) :=
  ⟨holds.record, holds.row, holds.free⟩

variable (shared : runtime.library = context.library)

include shared

/-- Reading a column gives what was stored last under it, through its converter. -/
theorem eval_getValue (holds : HoldsRow context table number row memory) {column : Column}
    (member : column ∈ table.columns) :
    runtime.eval memory (.send (.name recordVariable) context.library.getValue
        (context.columnArguments table column none)) =
      some (.datum (readDatum runtime context table row column)) := by
  unfold readDatum
  have nothing : runtime.evalAll memory [] = some [] := rfl
  have passed := Runtime.evalAll_column (holds.free _ (.inl rfl))
    (fun constant passed => holds.free constant (.inr ⟨column, member, passed⟩)) column.constant
    nothing
  have record := Memory.operand_of_held holds.record
  rw [MapperContext.columnArguments_eq]
  simp only [MapperContext.columnReference, Option.toList_none]
  simp only [Expr.send, Runtime.eval, record, passed, Option.bind_eq_bind, Option.bind_some]
  cases context.constant? table column with
  | none => simp [Runtime.ask, holds.row, shared, Runtime.decode, Table.columnKey]
  | some constant => simp [Runtime.ask, holds.row, shared, Runtime.decode, Table.columnKey]

/-- Storing a column appends its key with the value of its property, through its converter. -/
theorem step_storeColumn (holds : HoldsRow context table number row memory)
    {column : Column} (member : column ∈ table.columns)
    (entity : memory.locals.get? entityVariable = some (.object object))
    (found : memory.objects[object]? = some properties) {values : Column → V}
    (held : properties column.property = .plain (values column)) :
    runtime.step memory (ToRecord.storeColumn context table column) =
      some (memory.setRow number (row ++ [storedEntry runtime context table values column])) := by
  have gets : runtime.evalAll memory [.send (.name entityVariable) column.getter []] =
      some [.datum (.plain (values column))] := by
    have receiver := Memory.operand_of_held entity
    unfold Column.property at held
    simp [Expr.send, Runtime.evalAll, Runtime.eval, receiver, Runtime.ask, found, Column.getter, held]
  have passed := Runtime.evalAll_column (holds.free _ (.inl rfl))
    (fun constant passed => holds.free constant (.inr ⟨column, member, passed⟩)) column.constant
    gets
  have record := Memory.operand_of_held holds.record
  rw [ToRecord.storeColumn, MapperContext.columnArguments_eq]
  simp only [MapperContext.columnReference, Option.toList_some]
  simp only [Expr.send, Runtime.step, Runtime.eval, record, Option.bind_eq_bind, Option.bind_some]
  simp only [Expr.send] at passed
  rw [passed]
  unfold storedEntry
  cases context.constant? table column with
  | none => simp [Runtime.tell, holds.row, shared, Runtime.encode, Table.columnKey]
  | some constant => simp [Runtime.tell, holds.row, shared, Runtime.encode, Table.columnKey]

/-- Storing columns appends to the row in their order. -/
theorem run_storeColumns {values : Column → V} (rest : List Element) (stored : List Column)
    (among : ∀ column ∈ stored, column ∈ table.columns)
    (holds : HoldsRow context table number row memory)
    (entity : memory.locals.get? entityVariable = some (.object object))
    (found : memory.objects[object]? = some properties)
    (held : ∀ column ∈ stored, properties column.property = .plain (values column)) :
    runtime.run memory (stored.map (ToRecord.storeColumn context table) ++ rest) =
      runtime.run (memory.setRow number
        (row ++ stored.map (storedEntry runtime context table values))) rest := by
  induction stored generalizing memory row with
  | nil => simp [Memory.setRow_self holds.row]
  | cons column stored ih =>
    obtain ⟨own, others⟩ := List.forall_mem_cons.mp among
    obtain ⟨ownHeld, othersHeld⟩ := List.forall_mem_cons.mp held
    have stepped := step_storeColumn shared holds own entity found ownHeld
    rw [List.map_cons, List.cons_append, Runtime.run_cons stepped,
      ih others (holds.setRow _) entity found othersHeld]
    simp

/-- Reading a column sets its property on the object of the variable. -/
theorem step_readColumn (holds : HoldsRow context table number row memory)
    {column : Column} (member : column ∈ table.columns) {owner : String}
    (owns : memory.locals.get? owner = some (.object object))
    (found : memory.objects[object]? = some properties) :
    runtime.step memory (ToEntity.readColumn context table owner column) =
      some (memory.setObject object (Function.update properties column.property
        (readDatum runtime context table row column))) :=
  Runtime.step_setter.mpr ⟨object, properties, _, owns, found, eval_getValue shared holds member, rfl⟩

/-- Reading columns sets their properties in their order. -/
theorem run_readColumns (rest : List Element) (read : List Column)
    (among : ∀ column ∈ read, column ∈ table.columns)
    (holds : HoldsRow context table number row memory) {owner : String}
    (owns : memory.locals.get? owner = some (.object object))
    (found : memory.objects[object]? = some properties) :
    runtime.run memory (read.map (ToEntity.readColumn context table owner) ++ rest) =
      runtime.run (memory.setObject object (updateAll Column.property
        (readDatum runtime context table row) properties read)) rest := by
  induction read generalizing memory properties with
  | nil => simp [Memory.setObject_self found]
  | cons column read ih =>
    obtain ⟨own, others⟩ := List.forall_mem_cons.mp among
    have stepped := step_readColumn shared holds own owns found
    rw [List.map_cons, List.cons_append, Runtime.run_cons stepped,
      ih others (holds.setObject _ _) owns (Memory.setObject_held found)]
    simp

end Steps

end EntityMapper
