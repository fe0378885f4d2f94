import EntityMapper.Proofs.Mapper.Rebuild
import EntityMapper.Proofs.Mapper.Rows

/-!
# Entities written to a record and read back

The method that writes records stores the direct columns, and the one that reads records gives their
properties back to the new entity (`record_round_trip`). Whatever is built for embedded columns
afterwards leaves these properties as they are, until the method returns the entity or stops at a
second declaration of a variable (`KeepsEntity.run`). It does return where variables identify embedded
instances and hide no constant (`Running.run`).
-/
namespace EntityMapper

open Java (Datum Element Expr Memory Operand Runtime StoredRow)
open ToEntity (Action Scoped buildScript declared entityScript entityVariable ownActions
  recordVariable)

/-- Until the variable of the entity is declared again, nothing is set on it but what is no property
of a direct column. -/
def Table.Spares (table : Table) : List Action → Prop
  | [] => True
  | .create varName _ :: rest => varName = entityVariable ∨ table.Spares rest
  | .fetch owner _ :: rest => owner ≠ entityVariable ∧ table.Spares rest
  | .attach owner field :: rest =>
    (owner = entityVariable → ∀ column ∈ table.directColumns,
      column.property ≠ Java.capitalize field.fieldName) ∧ table.Spares rest

namespace Table

variable {table : Table}

theorem Spares.append {first second : List Action} (before : table.Spares first)
    (behind : table.Spares second) : table.Spares (first ++ second) := by
  induction first with
  | nil => exact behind
  | cons action rest ih =>
    cases action with
    | create varName typeName => exact before.imp_right ih
    | fetch owner column => exact ⟨before.1, ih before.2⟩
    | attach owner field => exact ⟨before.1, ih before.2⟩

theorem spares_of_owner {script : List Action}
    (others : ∀ action ∈ script, action.owner? ≠ some entityVariable) : table.Spares script := by
  induction script with
  | nil => trivial
  | cons action rest ih =>
    obtain ⟨own, later⟩ := List.forall_mem_cons.mp others
    have spared := ih later
    cases action with
    | create varName typeName => exact .inr spared
    | fetch owner column => exact ⟨fun same => own (congrArg some same), spared⟩
    | attach owner field => exact ⟨fun same => absurd (congrArg some same) own, spared⟩

/-- What is done for an object is done on its own variable, which is declared first. -/
theorem spares_ownActions (field : Embedding) (columns : List Column)
    (inner : List EmbeddedObject) : table.Spares (ownActions field columns inner) := by
  by_cases same : field.varName = entityVariable
  · exact .inl same
  · apply spares_of_owner
    intro action member owns
    exact same (ToEntity.owner?_ownActions member owns).symm

theorem spares_buildScript (objects : List EmbeddedObject) :
    table.Spares (buildScript objects) := by
  induction objects using ToEntity.buildScript.induct with
  | case1 =>
    unfold buildScript
    trivial
  | case2 field columns inner rest ihInner ihRest =>
    rw [buildScript]
    exact (ihInner.append (spares_ownActions field columns inner)).append ihRest

/-- What follows the direct columns spares them, if they differ in property from the outermost
embedded fields. -/
theorem spares_outermost {objects : List EmbeddedObject}
    (apart : ∀ object ∈ objects, ∀ column ∈ table.directColumns,
      column.property ≠ Java.capitalize object.field.fieldName) :
    table.Spares (objects.flatMap fun object =>
      buildScript [object] ++ [.attach entityVariable object.field]) := by
  induction objects with
  | nil => trivial
  | cons object rest ih =>
    obtain ⟨own, others⟩ := List.forall_mem_cons.mp apart
    rw [List.flatMap_cons]
    have handed : table.Spares [.attach entityVariable object.field] := ⟨fun _ => own, trivial⟩
    exact ((spares_buildScript [object]).append handed).append (ih others)

end Table

section Keeping

variable {V : Type} {runtime : Runtime V} {context : MapperContext} {table : Table}
  {values : Column → Datum V} {number : Nat} {memory after : Memory V}

/-- The variable of the entity, and no other one, holds an object whose properties are those of the
direct columns. -/
structure KeepsEntity (table : Table) (values : Column → Datum V) (number : Nat)
    (memory : Memory V) : Prop where
  entity : memory.locals.get? entityVariable = some (.object number)
  only : ∀ name, memory.locals.get? name = some (.object number) → name = entityVariable
  held : ∃ properties, memory.objects[number]? = some properties ∧
    ∀ column ∈ table.directColumns, properties column.property = values column

/-- Properties of other objects may be set, and other properties of the entity. -/
theorem KeepsEntity.setObject (keeps : KeepsEntity table values number memory) {other : Nat}
    {properties : String → Datum V} (found : memory.objects[other]? = some properties)
    {property : String} (datum : Datum V)
    (apart : other = number → ∀ column ∈ table.directColumns, column.property ≠ property) :
    KeepsEntity table values number
      (memory.setObject other (Function.update properties property datum)) := by
  refine ⟨keeps.entity, keeps.only, ?_⟩
  obtain ⟨own, held, agree⟩ := keeps.held
  by_cases same : other = number
  · subst same
    rw [found] at held
    cases held
    refine ⟨_, Memory.setObject_held found, ?_⟩
    intro column member
    rw [Function.update_of_ne (apart rfl column member)]
    exact agree column member
  · refine ⟨own, ?_, agree⟩
    rw [Memory.setObject_of_ne same]
    exact held

theorem KeepsEntity.withNew (keeps : KeepsEntity table values number memory) (name : String)
    (added : String → Datum V) : KeepsEntity table values number (memory.withNew name added) := by
  obtain ⟨own, held, agree⟩ := keeps.held
  have bound := (List.getElem?_eq_some_iff.mp held).1
  constructor
  · simp [Memory.withNew_get?, keeps.entity]
  · intro other holds
    rw [Memory.withNew_get?] at holds
    cases known : memory.locals.get? other with
    | some datum =>
      rw [known] at holds
      exact keeps.only other (known.trans holds)
    | none =>
      -- The new variable holds an object that was not there before.
      have last : name = other ∧ memory.objects.length = number := by simpa [known] using holds
      omega
  · exact ⟨own, Memory.withNew_held held, agree⟩

/-- A statement of a script that spares the direct columns keeps them, if it runs. -/
theorem KeepsEntity.step {action : Action} {rest : List Action}
    (spares : table.Spares (action :: rest)) (keeps : KeepsEntity table values number memory)
    (stepped : runtime.step memory (action.element context table) = some after) :
    table.Spares rest ∧ KeepsEntity table values number after := by
  cases action with
  | create varName typeName =>
    obtain ⟨fresh, rfl⟩ := Runtime.step_declareNew.mp stepped
    refine ⟨?_, keeps.withNew varName _⟩
    rcases spares with rfl | later
    · have known := (Entries.get?_isSome memory.locals entityVariable).mp (by simp [keeps.entity])
      exact absurd known fresh
    · exact later
  | fetch owner column =>
    obtain ⟨other, properties, datum, owns, found, _, rfl⟩ := Runtime.step_setter.mp stepped
    refine ⟨spares.2, keeps.setObject found datum ?_⟩
    rintro rfl
    exact absurd (keeps.only owner owns) spares.1
  | attach owner field =>
    obtain ⟨other, properties, datum, owns, found, _, rfl⟩ := Runtime.step_setter.mp stepped
    refine ⟨spares.2, keeps.setObject found datum ?_⟩
    rintro rfl
    exact spares.1 (keeps.only owner owns)

theorem returned_element (action : Action) (rest : List Element) :
    runtime.returned memory (action.element context table) rest = none := by
  cases action <;> rfl

/-- A script that spares the direct columns keeps them to the point where it stops, and gives back
the entity if it comes to its end. -/
theorem KeepsEntity.run (runtime : Runtime V) (context : MapperContext) {script : List Action}
    (spares : table.Spares script) (keeps : KeepsEntity table values number memory) :
    ∃ last given, runtime.run memory (script.map (Action.element context table) ++
        [.result (some (.name entityVariable))]) = (last, given) ∧
      KeepsEntity table values number last ∧
      (given = none ∨ given = some (.datum (.object number))) := by
  induction script generalizing memory with
  | nil =>
    refine ⟨memory, _, Runtime.run_result _, keeps, .inr ?_⟩
    simp [Runtime.eval, Memory.operand_of_held keeps.entity]
  | cons action rest ih =>
    rw [List.map_cons, List.cons_append]
    cases stepped : runtime.step memory (action.element context table) with
    | none =>
      refine ⟨memory, none, ?_, keeps, .inl rfl⟩
      rw [Runtime.run_stuck stepped, returned_element]
    | some after =>
      obtain ⟨later, kept⟩ := keeps.step spares stepped
      rw [Runtime.run_cons stepped]
      exact ih later kept

end Keeping

section Running

variable {V : Type} {runtime : Runtime V} {context : MapperContext} {table : Table} {number : Nat}
  {row : StoredRow V} {known : List String} {memory : Memory V}

/-- Beside the record, the known variables are declared and hold objects. -/
structure Running (context : MapperContext) (table : Table) (number : Nat) (row : StoredRow V)
    (known : List String) (memory : Memory V) : Prop extends
    HoldsRow context table number row memory where
  names : memory.locals.names = recordVariable :: known
  objects : ∀ name ∈ known, ∃ object properties,
    memory.locals.get? name = some (.object object) ∧ memory.objects[object]? = some properties

theorem Running.setObject (running : Running context table number row known memory) {object : Nat}
    {properties : String → Datum V} (found : memory.objects[object]? = some properties)
    (changed : String → Datum V) :
    Running context table number row known (memory.setObject object changed) := by
  refine ⟨running.toHoldsRow.setObject object changed, running.names, ?_⟩
  intro name member
  obtain ⟨other, own, holds, held⟩ := running.objects name member
  by_cases same : object = other
  · subst same
    exact ⟨object, changed, holds, Memory.setObject_held found⟩
  · exact ⟨other, own, holds, (Memory.setObject_of_ne same changed).trans held⟩

theorem Running.withNew (running : Running context table number row known memory) {name : String}
    (fresh : name ∉ known ∧ name ≠ recordVariable) (visible : ¬ context.Passes table name)
    (added : String → Datum V) :
    Running context table number row (known ++ [name]) (memory.withNew name added) := by
  have undeclared : memory.locals.get? name = none := by
    have absent : name ∉ memory.locals.names := by simp [running.names, fresh]
    exact Entries.get?_eq_none.mpr absent
  refine ⟨⟨?_, running.row, ?_⟩, ?_, ?_⟩
  · simp [Memory.withNew_get?, running.record]
  · intro constant passes
    have differ : name ≠ constant := by
      rintro rfl
      exact visible passes
    simp [Memory.withNew_get?, running.free constant passes, differ]
  · have old := running.names
    unfold Entries.names at old ⊢
    simp [Memory.withNew, old]
  · intro other member
    rcases List.mem_append.mp member with before | new
    · obtain ⟨object, properties, holds, held⟩ := running.objects other before
      exact ⟨object, properties, by simp [Memory.withNew_get?, holds], Memory.withNew_held held⟩
    · rw [List.mem_singleton.mp new]
      refine ⟨memory.objects.length, added, ?_, ?_⟩
      · simp [Memory.withNew_get?, undeclared]
      · simp [Memory.withNew]

variable (shared : runtime.library = context.library)

include shared

/-- An action that is ready runs. -/
theorem Running.step (running : Running context table number row known memory) {action : Action}
    (ready : action.Ready known)
    (mapped : ∀ owner column, action = .fetch owner column → column ∈ table.columns)
    (visible : ∀ name ∈ declared [action], ¬ context.Passes table name) :
    ∃ after, runtime.step memory (action.element context table) = some after ∧
      Running context table number row (known ++ declared [action]) after := by
  cases action with
  | create varName typeName =>
    have fresh : varName ∉ memory.locals.names := by simp [running.names, ready.1, ready.2]
    exact ⟨_, Runtime.step_declareNew.mpr ⟨fresh, rfl⟩,
      running.withNew ready (visible varName List.mem_cons_self) _⟩
  | fetch owner column =>
    obtain ⟨object, properties, owns, found⟩ := running.objects owner ready
    refine ⟨_, step_readColumn shared running.toHoldsRow (mapped owner column rfl) owns found, ?_⟩
    simpa [declared] using running.setObject found _
  | attach owner field =>
    obtain ⟨object, properties, owns, found⟩ := running.objects owner ready.1
    obtain ⟨inner, _, holds, _⟩ := running.objects field.varName ready.2
    have given : runtime.eval memory (.name field.varName) = some (.datum (.object inner)) := by
      simp [Runtime.eval, Memory.operand_of_held holds]
    refine ⟨_, Runtime.step_setter.mpr ⟨object, properties, _, owns, found, given, rfl⟩, ?_⟩
    simpa [declared] using running.setObject found _

/-- A scoped script runs to its end, if its variables hide no constant. -/
theorem Running.run {script : List Action} (ordered : Scoped known script)
    (running : Running context table number row known memory)
    (mapped : ∀ owner column, .fetch owner column ∈ script → column ∈ table.columns)
    (visible : ∀ name ∈ declared script, ¬ context.Passes table name) (rest : List Element) :
    ∃ last, Running context table number row (known ++ declared script) last ∧
      runtime.run memory (script.map (Action.element context table) ++ rest) =
        runtime.run last rest := by
  induction script generalizing known memory with
  | nil => exact ⟨memory, by simpa [declared] using running, rfl⟩
  | cons action script ih =>
    obtain ⟨ready, later⟩ := ordered
    have grouped : declared (action :: script) = declared [action] ++ declared script :=
      ToEntity.declared_append [action] script
    rw [grouped] at visible
    obtain ⟨after, stepped, running⟩ := running.step shared ready
      (fun owner column same => mapped owner column (same ▸ List.mem_cons_self))
      (fun name member => visible name (List.mem_append_left _ member))
    obtain ⟨last, runs, ended⟩ := ih later running
      (fun owner column member => mapped owner column (List.mem_cons_of_mem _ member))
      (fun name member => visible name (List.mem_append_right _ member))
    refine ⟨last, ?_, ?_⟩
    · rw [grouped, ← List.append_assoc]
      exact runs
    · rw [List.map_cons, List.cons_append, Runtime.run_cons stepped]
      exact ended

end Running

/-- What the mappers of a context run with, when converters do what `codec` says. -/
def MapperContext.runtime {V : Type} (context : MapperContext) (unset : V)
    (codec : String → Java.Codec V) : Runtime V :=
  ⟨context.library, unset, codec⟩

section Methods

/-- A call of the method that reads records runs its body with the record at hand. -/
theorem call_toEntity_eq {V : Type} (runtime : Runtime V) (context : MapperContext) (table : Table)
    (memory : Memory V) (number : Nat) :
    runtime.call memory [.record number] (ToEntity.method context table) =
      runtime.run { memory with locals := [(recordVariable, .record number)] }
        (ToEntity.body context table) := rfl

variable {V : Type} {runtime : Runtime V} {context : MapperContext} {table : Table}
  (shared : runtime.library = context.library)

include shared

/-- The method that writes records makes a record of the direct columns and changes no object. -/
theorem call_toRecord {source : String → Datum V} {values : Column → V}
    (held : ∀ column ∈ table.directColumns, source column.property = .plain (values column)) :
    ∃ last, runtime.call { objects := [source] } [.object 0] (ToRecord.method context table) =
        (last, some (.datum (.record 0))) ∧
      last.objects = [source] ∧
      last.records = [table.directColumns.map (storedEntry runtime context table values)] := by
  let start : Memory V := { locals := [(entityVariable, .object 0)], objects := [source] }
  let made : Memory V := {
    locals := [(entityVariable, .object 0), (recordVariable, .record 0)]
    objects := [source]
    records := [[]] }
  have differ : recordVariable ≠ entityVariable := by decide
  have stepped : runtime.step start (.localVar (.named context.library.recordType) recordVariable
      (some (.send (.name table.constant) context.library.newRecord []))) = some made := by
    have apart : table.constant ≠ entityVariable := (constantName_ne_variable table.name).2
    have visible : table.constant ∉ start.locals.names := by simp [start, Entries.names, apart]
    have fresh : recordVariable ∉ start.locals.names := by simp [start, Entries.names, differ]
    simp only [Expr.send, Runtime.step, Runtime.make, visible, shared]
    simp [Memory.makeRecord, Memory.declare, start, made, fresh]
  have holds : HoldsRow context table 0 [] made := by
    refine holdsRow_of_names ?_ rfl ?_
    · simp [made, Entries.get?_cons, differ.symm]
    · simp [made, Entries.names]
  have stores := run_storeColumns shared [.result (some (.name recordVariable))]
    table.directColumns (fun column member => List.mem_of_mem_filter member) holds
    (show made.locals.get? entityVariable = some (.object 0) from rfl) rfl held
  refine ⟨made.setRow 0 (table.directColumns.map (storedEntry runtime context table values)),
    ?_, rfl, rfl⟩
  change runtime.run start (_ :: _ ++ _) = _
  rw [List.cons_append, Runtime.run_cons stepped, stores, Runtime.run_result]
  rfl

/-- The first statements of the method that reads records make the entity and set the properties of
its direct columns. -/
theorem exists_keepsEntity (properties : (table.directColumns.map Column.property).Nodup)
    {memory : Memory V} {number : Nat} {row : StoredRow V}
    (parameter : memory.locals = [(recordVariable, .record number)])
    (found : memory.records[number]? = some row) (rest : List Element) :
    ∃ middle, runtime.run memory
        (ToEntity.declareNew (.named table.className) entityVariable ::
          (table.directColumns.map (ToEntity.readColumn context table entityVariable) ++ rest)) =
        runtime.run middle rest ∧
      KeepsEntity table (readDatum runtime context table row) memory.objects.length middle := by
  have differ : recordVariable ≠ entityVariable := by decide
  let made := memory.withNew entityVariable fun _ => .plain runtime.unset
  have created : runtime.step memory
      (ToEntity.declareNew (.named table.className) entityVariable) = some made :=
    Runtime.step_declareNew.mpr ⟨by simp [parameter, Entries.names, differ.symm], rfl⟩
  have record : made.locals.get? recordVariable = some (.record number) := by
    simp [made, Memory.withNew_get?, parameter, Entries.get?_cons]
  have entity : made.locals.get? entityVariable = some (.object memory.objects.length) := by
    have undeclared : memory.locals.get? entityVariable = none := by
      rw [parameter, Entries.get?_cons, if_neg differ]
      rfl
    simp [made, Memory.withNew_get?, undeclared]
  have names : ∀ name ∈ made.locals.names, name = recordVariable ∨ name = entityVariable := by
    simp [made, Memory.withNew, parameter, Entries.names]
  have fresh : made.objects[memory.objects.length]? = some fun _ => .plain runtime.unset := by
    simp [made, Memory.withNew]
  have reads := run_readColumns shared rest table.directColumns
    (fun column member => List.mem_of_mem_filter member) (holdsRow_of_names record found names)
    entity fresh
  rw [Runtime.run_cons created, reads]
  refine ⟨_, rfl, entity, ?_, _, Memory.setObject_held fresh, ?_⟩
  · intro name holds
    have known : name ∈ made.locals.names :=
      (Entries.get?_isSome made.locals name).mp (by simpa using congrArg Option.isSome holds)
    rcases names name known with rfl | same
    · cases record.symm.trans holds
    · exact same
  · intro column member
    exact updateAll_of_mem properties member

/-- The method that reads records sets the properties of the direct columns on a new object, which is
the only thing that it may give back. -/
theorem call_toEntity (properties : (table.directColumns.map Column.property).Nodup)
    (ownProperties : ∀ column ∈ table.directColumns, ∀ other ∈ table.embeddedColumns,
      ∀ field ∈ other.parents.head?, column.property ≠ Java.capitalize field.fieldName)
    {memory : Memory V} {number : Nat} {row : StoredRow V}
    (found : memory.records[number]? = some row) :
    ∃ last given, runtime.call memory [.record number] (ToEntity.method context table) =
        (last, given) ∧
      KeepsEntity table (readDatum runtime context table row) memory.objects.length last ∧
      (given = none ∨ given = some (.datum (.object memory.objects.length))) := by
  let outermost := (EmbeddedObject.ofColumns table.embeddedColumns).flatMap fun object =>
    buildScript [object] ++ [.attach entityVariable object.field]
  have spares : table.Spares outermost := by
    apply Table.spares_outermost
    intro object member column direct
    obtain ⟨other, embedded, first⟩ := EmbeddedObject.exists_head_of_mem_ofColumns member
    exact ownProperties column direct other embedded object.field first
  let rest := outermost.map (Action.element context table) ++ [.result (some (.name entityVariable))]
  let start : Memory V := { memory with locals := [(recordVariable, .record number)] }
  have parameter : start.locals = [(recordVariable, .record number)] := rfl
  obtain ⟨middle, made, keeps⟩ := exists_keepsEntity shared properties parameter found rest
  obtain ⟨last, given, ran, kept, gives⟩ := keeps.run runtime context spares
  have body : ToEntity.body context table =
      ToEntity.declareNew (.named table.className) entityVariable ::
        (table.directColumns.map (ToEntity.readColumn context table entityVariable) ++ rest) := by
    simp [ToEntity.body, ToEntity.buildOutermost_eq, rest, outermost]
  refine ⟨last, given, ?_, kept, gives⟩
  rw [call_toEntity_eq, body]
  exact made.trans ran

/-- Where variables identify embedded instances and hide no constant, the method that reads records
gives something back. -/
theorem call_toEntity_isSome (identified : table.IdentifiesInstances)
    (visible : ∀ column ∈ table.columns, ∀ field ∈ column.parents,
      ¬ context.Passes table field.varName)
    {memory : Memory V} {number : Nat} {row : StoredRow V}
    (found : memory.records[number]? = some row) :
    (runtime.call memory [.record number] (ToEntity.method context table)).2.isSome = true := by
  have groups := ToEntity.groups_of_identified identified
  have created := ToEntity.creations_entityScript (ToEntity.entityScript_perm rfl groups.grouped)
  have ordered := ToEntity.entityScript_ordered rfl groups.distinct groups.free
  have record : Entries.get? [(recordVariable, Datum.record (V := V) number)] recordVariable =
      some (.record number) := by
    simp [Entries.get?_cons]
  have running : Running context table number row []
      { memory with locals := [(recordVariable, .record number)] } := by
    refine ⟨holdsRow_of_names record found ?_, rfl, ?_⟩
    · simp [Entries.names]
    · simp
  have uncovered : ∀ name ∈ declared (entityScript table), ¬ context.Passes table name := by
    intro name member passes
    obtain ⟨made, inScript, rfl⟩ := List.mem_map.mp member
    rcases List.mem_cons.mp (created.mem_iff.mp inScript) with rfl | embedded
    · exact passes.ne_variable.2 rfl
    · obtain ⟨inst, inInstances, rfl⟩ := List.mem_map.mp embedded
      obtain ⟨column, inTable, within⟩ := (groups.listed inst).mp inInstances
      exact visible column inTable inst.field (within.subset (by simp [Instance.chain])) passes
  obtain ⟨last, runs, ended⟩ := running.run shared ordered
    (fun owner column member => (ToEntity.exists_fetch_entityScript table column).mp ⟨owner, member⟩)
    uncovered [.result (some (.name entityVariable))]
  rw [call_toEntity_eq, ToEntity.body_eq, ended, Runtime.run_result]
  rfl

end Methods

/-- Where the direct columns differ in constant from each other and from embedded ones, and in property
from each other and from the outermost embedded fields, and reading undoes what their converters
write: an entity's record has one entry for each direct column and none for embedded ones, made from
the property of the column by its converter. Reading that record gives a new object all these
properties, whatever else it builds, and gives back nothing but this object; where variables identify
embedded instances and hide no constant, it does give it back. -/
theorem record_round_trip {V : Type} (context : MapperContext) (table : Table) (unset : V)
    (codec : String → Java.Codec V) (entity : String → V)
    (constants : (table.directColumns.map Column.constant).Nodup)
    (ownConstants : ∀ column ∈ table.directColumns, ∀ other ∈ table.embeddedColumns,
      column.constant ≠ other.constant)
    (properties : (table.directColumns.map Column.property).Nodup)
    (ownProperties : ∀ column ∈ table.directColumns, ∀ other ∈ table.embeddedColumns,
      ∀ field ∈ other.parents.head?, column.property ≠ Java.capitalize field.fieldName)
    (undoes : ∀ column ∈ table.directColumns, ∀ constant ∈ context.constant? table column, ∀ value,
      (codec constant).read ((codec constant).write value) = value) :
    ∃ written row,
      (context.runtime unset codec).call { objects := [fun property => .plain (entity property)] }
          [.object 0] (ToRecord.method context table) = (written, some (.datum (.record 0))) ∧
      written.objects = [fun property => .plain (entity property)] ∧ written.records = [row] ∧
      row = table.directColumns.map (fun column => (table.columnKey column,
        (context.runtime unset codec).encode (context.constant? table column)
          (entity column.property))) ∧
      (row.map Prod.fst).Nodup ∧
      (∀ column ∈ table.embeddedColumns, table.columnKey column ∉ row.map Prod.fst) ∧
      ∃ last given,
        (context.runtime unset codec).call written [.record 0] (ToEntity.method context table) =
          (last, given) ∧
        last.locals.get? entityVariable = some (.object 1) ∧
        (∃ held, last.objects[1]? = some held ∧
          ∀ column ∈ table.directColumns, held column.property = .plain (entity column.property)) ∧
        (given = none ∨ given = some (.datum (.object 1))) ∧
        (table.IdentifiesInstances →
          (∀ column ∈ table.columns, ∀ field ∈ column.parents,
            ¬ context.Passes table field.varName) →
          given = some (.datum (.object 1))) := by
  let runtime := context.runtime unset codec
  let values : Column → V := fun column => entity column.property
  let row := table.directColumns.map (storedEntry runtime context table values)
  have keys : row.map Prod.fst = table.directColumns.map table.columnKey := by
    simp [row, storedEntry, Function.comp_def]
  have shared : runtime.library = context.library := rfl
  let source : String → Datum V := fun property => .plain (entity property)
  have held : ∀ column ∈ table.directColumns, source column.property = .plain (values column) :=
    fun _ _ => rfl
  obtain ⟨written, wrote, objects, records⟩ := call_toRecord shared held
  have found : written.records[0]? = some row := by simp [records, row]
  obtain ⟨last, given, read, keeps, gives⟩ :=
    call_toEntity shared properties ownProperties found
  have number : written.objects.length = 1 := by simp [objects]
  rw [number] at keeps gives
  refine ⟨written, row, wrote, objects, records, rfl, ?_, ?_, last, given, read, keeps.entity, ?_,
    gives, ?_⟩
  · rw [keys]
    apply List.Nodup.of_map Prod.snd
    simpa [Function.comp_def, Table.columnKey] using constants
  · intro column embedded member
    rw [keys] at member
    obtain ⟨direct, inTable, same⟩ := List.mem_map.mp member
    exact ownConstants direct inTable column embedded (congrArg Prod.snd same)
  · obtain ⟨held, stands, agree⟩ := keeps.held
    refine ⟨held, stands, ?_⟩
    intro column member
    rw [agree column member]
    exact readDatum_storedEntries constants undoes member
  · intro identified visible
    have some := call_toEntity_isSome shared identified visible found
    rw [read] at some
    rcases gives with rfl | returned
    · cases some
    · exact returned

/-- Converters that add one on the way to a record and take it off on the way back. -/
def shiftingRuntime : Runtime Int :=
  MapperContext.runtime {} 0 fun _ => ⟨(· - 1), (· + 1)⟩

/-- A bill whose properties are the lengths of their names comes back with its state and its sum. -/
theorem billTable_round_trip :
    ∃ written last,
      shiftingRuntime.call { objects := [fun property => .plain property.length] } [.object 0]
        (ToRecord.method {} billTable) = (written, some (.datum (.record 0))) ∧
      written.records = [[(("BILLS", "STATE"), 6), (("BILLS", "SUM"), 4)]] ∧
      shiftingRuntime.call written [.record 0] (ToEntity.method {} billTable) =
        (last, some (.datum (.object 1))) ∧
      ∃ held, last.objects[1]? = some held ∧
        ∀ column ∈ billTable.directColumns, held column.property = .plain column.property.length := by
  have constants : (billTable.directColumns.map Column.constant).Nodup := by decide +kernel
  have ownConstants : ∀ column ∈ billTable.directColumns, ∀ other ∈ billTable.embeddedColumns,
      column.constant ≠ other.constant := by decide +kernel
  have properties : (billTable.directColumns.map Column.property).Nodup := by decide +kernel
  have ownProperties : ∀ column ∈ billTable.directColumns, ∀ other ∈ billTable.embeddedColumns,
      ∀ field ∈ other.parents.head?, column.property ≠ Java.capitalize field.fieldName := by
    decide +kernel
  have identified : billTable.IdentifiesInstances := by decide +kernel
  have visible : ∀ column ∈ billTable.columns, ∀ field ∈ column.parents,
      ¬ MapperContext.Passes {} billTable field.varName := by
    unfold MapperContext.Passes
    decide +kernel
  obtain ⟨written, row, wrote, _, records, made, _, _, last, given, read, _, held, _, returns⟩ :=
    record_round_trip {} billTable 0 (fun _ => ⟨(· - 1), (· + 1)⟩)
      (fun property => (property.length : Int)) constants ownConstants properties ownProperties
      (by simp)
  rw [returns identified visible] at read
  refine ⟨written, last, wrote, ?_, read, held⟩
  rw [records, made]
  decide +kernel

end EntityMapper
