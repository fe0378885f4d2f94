import EntityMapper.Proofs.Mapper.Assembly

/-!
# Mapper methods rebuild entities

Where variables identify embedded instances, the method that reads records runs to its end and
returns an entity made of one new object for each instance (`toEntity_rebuilds`): every column is
stored once, in the object of its innermost parent, and every embedded object is handed over once,
complete, to the object around it.
-/
namespace EntityMapper

/-- Some column is reached through the instance. -/
def Table.HasInstance (table : Table) (inst : Instance) : Prop :=
  ∃ column ∈ table.columns, inst.chain <+: column.parents

/-- A variable stands in one place only, within a chain of parents and across chains, and no
variable is that of the entity or the record. -/
structure Table.IdentifiesInstances (table : Table) : Prop where
  agree : ∀ a ∈ table.columns, ∀ b ∈ table.columns, ∀ first second : Instance,
    first.chain <+: a.parents → second.chain <+: b.parents →
      first.field.varName = second.field.varName → first = second
  free : ∀ column ∈ table.columns, ∀ field ∈ column.parents,
    field.varName ≠ ToEntity.entityVariable ∧ field.varName ≠ ToEntity.recordVariable

theorem Table.identifiesInstances_iff (table : Table) :
    table.IdentifiesInstances ↔
      (∀ a ∈ table.columns, ∀ b ∈ table.columns, ∀ first ∈ Instance.along [] a.parents,
        ∀ second ∈ Instance.along [] b.parents,
          first.field.varName = second.field.varName → first = second) ∧
      ∀ column ∈ table.columns, ∀ field ∈ column.parents,
        field.varName ≠ ToEntity.entityVariable ∧ field.varName ≠ ToEntity.recordVariable := by
  have within (inst : Instance) (parents : List Embedding) :
      inst ∈ Instance.along [] parents ↔ inst.chain <+: parents := by
    simp [Instance.mem_along]
  simp only [within]
  constructor
  · exact fun identified => ⟨fun a memberA b memberB first ofA second ofB =>
      identified.agree a memberA b memberB first second ofA ofB, identified.free⟩
  · exact fun ⟨agree, free⟩ => ⟨fun a memberA b memberB first second ofA ofB =>
      agree a memberA b memberB first ofA second ofB, free⟩

instance (table : Table) : Decidable table.IdentifiesInstances :=
  decidable_of_iff _ table.identifiesInstances_iff.symm

theorem Table.identifiesInstances_of_parents {table : Table} {ways : List (List Embedding)}
    (same : table.columns.map (·.parents) = ways)
    (agree : ∀ a ∈ ways, ∀ b ∈ ways, ∀ first ∈ Instance.along [] a, ∀ second ∈ Instance.along [] b,
      first.field.varName = second.field.varName → first = second)
    (free : ∀ way ∈ ways, ∀ field ∈ way,
      field.varName ≠ ToEntity.entityVariable ∧ field.varName ≠ ToEntity.recordVariable) :
    table.IdentifiesInstances := by
  subst same
  exact table.identifiesInstances_iff.mpr
    ⟨fun a ofA b ofB => agree _ (List.mem_map_of_mem ofA) _ (List.mem_map_of_mem ofB),
      fun column member => free _ (List.mem_map_of_mem member)⟩

/-- Instances lie on the way of embedded columns. -/
theorem Table.hasInstance_iff {table : Table} {inst : Instance} :
    table.HasInstance inst ↔
      ∃ column ∈ table.embeddedColumns, inst ∈ Instance.along [] column.parents := by
  constructor
  · rintro ⟨column, member, within⟩
    have nested : column.isEmbedded = true := by
      have long := within.length_le
      cases parents : column.parents with
      | nil => simp [Instance.chain, parents] at long
      | cons parent below => simp [Column.isEmbedded, parents]
    exact ⟨column, List.mem_filter.mpr ⟨member, nested⟩,
      Instance.mem_along.mpr ⟨Nat.zero_le _, within⟩⟩
  · rintro ⟨column, member, along⟩
    exact ⟨column, List.mem_of_mem_filter member, (Instance.mem_along.mp along).2⟩

/-- Instances of a table that share a variable are one instance. -/
theorem Table.IdentifiesInstances.eq_of_varName {table : Table}
    (identified : table.IdentifiesInstances) {first second : Instance}
    (ofFirst : table.HasInstance first) (ofSecond : table.HasInstance second)
    (same : first.field.varName = second.field.varName) : first = second := by
  obtain ⟨a, memberA, withinA⟩ := ofFirst
  obtain ⟨b, memberB, withinB⟩ := ofSecond
  exact identified.agree a memberA b memberB first second withinA withinB same

namespace ToEntity

open EmbeddedObject (instances stored varNames)
open Java (Call Element Machine TypeRef Value)

/-- An object that was handed over is the receiver of no later call, and one that was handed another
stores no later column. -/
def Complete (earlier later : Call) : Prop :=
  ∀ object, earlier.argument = .object object → later.receiver ≠ object ∧
    (later.receiver = earlier.receiver → ∃ other, later.argument = .object other)

/-- What is left of a run that has rebuilt the entity of a table with the given instances. -/
structure Rebuilds (context : MapperContext) (table : Table) (embedded : List Instance)
    (final : Machine) : Prop where
  declared : final.locals.names.Perm (entityVariable :: embedded.map (·.field.varName))
  declaredOnce : final.locals.names.Nodup
  fresh : final.locals.values.Nodup
  entity : ∃ object, final.locals.get? entityVariable = some object ∧
    final.objects[object]? = some (.named table.className) ∧ final.returned = some object
  objects : ∀ inst ∈ embedded, ∃ object, final.locals.get? inst.field.varName = some object ∧
    final.objects[object]? = some (.named inst.field.typeName)
  calls : (final.calls.map some).Perm
    (table.columns.map (fun column =>
        (Action.fetch (holder column.parents) column).call? context table final.locals) ++
      embedded.map fun inst =>
        (Action.attach (holder inst.outer) inst.field).call? context table final.locals)
  complete : final.calls.Pairwise Complete

/-- A declared variable holds an object of its type. -/
theorem exists_created {created : List (String × String)} (distinct : (created.map (·.1)).Nodup)
    {varName typeName : String} (member : (varName, typeName) ∈ created) :
    ∃ object, Entries.get? ((created.map (·.1)).zipIdx) varName = some object ∧
      (created.map fun made => TypeRef.named made.2)[object]? = some (.named typeName) := by
  have named : varName ∈ Entries.names ((created.map (·.1)).zipIdx) := by
    rw [Entries.names, List.zipIdx_map_fst]
    exact List.mem_map_of_mem (f := (·.1)) member
  obtain ⟨object, held⟩ := exists_held named
  refine ⟨object, held, ?_⟩
  have placed := List.mem_zipIdx_iff_getElem?.mp (Entries.mem_of_get? held)
  rw [List.getElem?_map, Option.map_eq_some_iff] at placed
  obtain ⟨entry, found, same⟩ := placed
  have only := List.inj_on_of_nodup_map distinct (List.mem_of_getElem? found) member same
  rw [List.getElem?_map, found, only]
  rfl

/-- Variables that hold one object are one variable. -/
theorem eq_of_get? {locals : Entries Nat} (fresh : locals.values.Nodup) {first second : String}
    {object : Nat} (heldFirst : locals.get? first = some object)
    (heldSecond : locals.get? second = some object) : first = second :=
  congrArg Prod.fst
    (List.inj_on_of_nodup_map fresh (Entries.mem_of_get? heldFirst) (Entries.mem_of_get? heldSecond) rfl)

/-- A call comes from a setter on the object of a variable; it hands over what a variable holds, or
else stores a column. -/
theorem call?_eq_some {context : MapperContext} {table : Table} {locals : Entries Nat}
    {action : Action} {call : Call} (made : action.call? context table locals = some call) :
    ∃ owner, action.owner? = some owner ∧ locals.get? owner = some call.receiver ∧
      ((∃ column, action = .fetch owner column ∧ ∀ object, call.argument ≠ .object object) ∨
        ∃ field object, action = .attach owner field ∧
          locals.get? field.varName = some object ∧ call.argument = .object object) := by
  cases action with
  | create varName typeName => cases made
  | fetch owner column =>
    obtain ⟨receiver, held, same⟩ := Option.bind_eq_some_iff.mp made
    cases same
    exact ⟨owner, rfl, held, .inl ⟨column, rfl, fun object => by simp⟩⟩
  | attach owner field =>
    obtain ⟨receiver, held, rest⟩ := Option.bind_eq_some_iff.mp made
    obtain ⟨object, heldField, same⟩ := Option.bind_eq_some_iff.mp rest
    cases same
    exact ⟨owner, rfl, held, .inr ⟨field, object, rfl, heldField, rfl⟩⟩

/-- What holds of the order of actions holds of the order of their calls. -/
theorem complete_of_settled {context : MapperContext} {table : Table} {locals : Entries Nat}
    (fresh : locals.values.Nodup) {first second : Action} (settled : Settled first second)
    {earlier later : Call} (madeEarlier : first.call? context table locals = some earlier)
    (madeLater : second.call? context table locals = some later) : Complete earlier later := by
  intro object handed
  obtain ⟨owner, _, heldOwner, ⟨_, _, notObject⟩ | ⟨field, held, rfl, heldField, same⟩⟩ :=
    call?_eq_some madeEarlier
  · exact absurd handed (notObject object)
  rw [handed] at same
  cases same
  obtain ⟨notField, notFetch⟩ := settled owner field rfl
  obtain ⟨other, owns, heldOther, kind⟩ := call?_eq_some madeLater
  refine ⟨fun equal => notField ?_, fun equal => ?_⟩
  · rw [owns, eq_of_get? fresh heldOther (equal ▸ heldField)]
  · rcases kind with ⟨column, rfl, _⟩ | ⟨_, given, _, _, hands⟩
    · have same := eq_of_get? fresh heldOther (equal ▸ heldOwner)
      exact absurd (same ▸ rfl) (notFetch column)
    · exact ⟨given, hands⟩

theorem calls_complete {context : MapperContext} {table : Table} {locals : Entries Nat}
    (fresh : locals.values.Nodup) {script : List Action} (settled : script.Pairwise Settled)
    {calls : List Call} (made : calls.map some = script.map (Action.call? context table locals)) :
    calls.Pairwise Complete := by
  have pairs : (calls.map some).Pairwise fun first second => ∀ earlier later,
      first = some earlier → second = some later → Complete earlier later := by
    rw [made]
    exact List.pairwise_map.mpr (settled.imp fun apart _ _ ofFirst ofSecond =>
      complete_of_settled fresh apart ofFirst ofSecond)
  exact (List.pairwise_map.mp pairs).imp fun related => related _ _ rfl rfl

/-- A script that starts with the entity runs as a method and gives the entity back. -/
theorem runMethod_eq (context : MapperContext) (table : Table)
    (ordered : Scoped [] (entityScript table)) :
    ∃ final, Java.runMethod (method context table) = some final ∧
      final.locals = (declared (entityScript table)).zipIdx ∧
      final.objects = (creations (entityScript table)).map (fun made => .named made.2) ∧
      final.calls.map some = ((entityScript table).filter Action.isCall).map
        (Action.call? context table final.locals) ∧
      final.returned = final.locals.get? entityVariable := by
  obtain ⟨after, ran, _, locals, objects, calls⟩ := run_script context table (entityScript table)
    { parameters := [recordVariable] } rfl rfl ordered
  have entity : entityVariable ∈ after.locals.names := by
    rw [locals, Entries.names, List.map_append, List.zipIdx_map_fst]
    simp [entityScript, declared]
  obtain ⟨object, held⟩ := exists_held entity
  refine ⟨{ after with returned := some object }, ?_, by simpa using locals, by simpa using objects,
    by simpa using calls, held.symm⟩
  rw [method, Java.runMethod, body_eq, Machine.run_append]
  have finished : after.run [.result (some (.name entityVariable))] =
      some { after with returned := some object } := by
    simp_all [Machine.run, Machine.step, Machine.giveBack]
  change (({ parameters := [recordVariable] } : Machine).run _).bind _ = _
  rw [ran]
  exact finished

/-- The script declares the entity and one variable for each instance. -/
theorem creations_entityScript {table : Table} {embedded : List Instance}
    (permuted : (entityScript table).Perm (.create entityVariable table.className ::
      (embedded.map (fun inst => .create inst.field.varName inst.field.typeName)
        ++ table.columns.map (fun column => .fetch (holder column.parents) column)
        ++ embedded.map fun inst => .attach (holder inst.outer) inst.field))) :
    (creations (entityScript table)).Perm ((entityVariable, table.className) ::
      embedded.map fun inst => (inst.field.varName, inst.field.typeName)) := by
  have made := permuted.filterMap Action.created?
  rw [creations]
  simpa [List.filterMap_append, List.filterMap_map, Function.comp_def, Action.created?] using made

/-- Its other actions store each column and hand over each instance. -/
theorem calls_entityScript {table : Table} {embedded : List Instance}
    (permuted : (entityScript table).Perm (.create entityVariable table.className ::
      (embedded.map (fun inst => .create inst.field.varName inst.field.typeName)
        ++ table.columns.map (fun column => .fetch (holder column.parents) column)
        ++ embedded.map fun inst => .attach (holder inst.outer) inst.field))) :
    ((entityScript table).filter Action.isCall).Perm
      (table.columns.map (fun column => .fetch (holder column.parents) column)
        ++ embedded.map fun inst => .attach (holder inst.outer) inst.field) := by
  have called := permuted.filter Action.isCall
  simpa [List.filter_map, Function.comp_def, Action.isCall, Action.created?] using called

/-- What the columns of a table are grouped into: one object for each instance, all with variables
of their own. -/
structure Groups (table : Table) (objects : List EmbeddedObject) : Prop where
  listed : ∀ inst, inst ∈ instances [] objects ↔ table.HasInstance inst
  once : (instances [] objects).Nodup
  grouped : (stored [] objects).Perm
    (table.embeddedColumns.map fun column => (column.parents, column))
  distinct : (varNames objects).Nodup
  free : ∀ varName ∈ varNames objects, varName ≠ entityVariable ∧ varName ≠ recordVariable

theorem groups_of_identified {table : Table} (identified : table.IdentifiesInstances) :
    Groups table (EmbeddedObject.ofColumns table.embeddedColumns) := by
  have nested : ∀ column ∈ table.embeddedColumns, column.parents ≠ [] := fun _ => table.parents_ne_nil
  have known : ∀ column ∈ table.embeddedColumns, ∀ inst ∈ Instance.along [] column.parents,
      table.HasInstance inst := fun column member inst along =>
    Table.hasInstance_iff.mpr ⟨column, member, along⟩
  obtain ⟨reached, grouped, separate⟩ := EmbeddedObject.ofColumns_groups
    (fun _ _ ofA ofB same => identified.eq_of_varName ofA ofB same) table.embeddedColumns nested known
  have listed : ∀ inst, inst ∈ instances [] (EmbeddedObject.ofColumns table.embeddedColumns) ↔
      table.HasInstance inst := fun inst => (reached inst).trans Table.hasInstance_iff.symm
  refine ⟨listed, separate.instances_nodup [], grouped, ?_, ?_⟩
  · rw [← EmbeddedObject.map_varName_instances []]
    refine (separate.instances_nodup []).map_on fun a memberA b memberB same => ?_
    exact identified.eq_of_varName ((listed a).mp memberA) ((listed b).mp memberB) same
  · rw [← EmbeddedObject.map_varName_instances []]
    intro varName member
    obtain ⟨inst, inInstances, rfl⟩ := List.mem_map.mp member
    obtain ⟨column, inColumns, within⟩ := (listed inst).mp inInstances
    exact identified.free column inColumns inst.field (within.subset (by simp [Instance.chain]))

/-- The script of a table runs to its end and leaves the entity rebuilt. -/
theorem Groups.rebuilds {table : Table}
    (groups : Groups table (EmbeddedObject.ofColumns table.embeddedColumns))
    (context : MapperContext) :
    ∃ final, Java.runMethod (method context table) = some final ∧
      Rebuilds context table (instances [] (EmbeddedObject.ofColumns table.embeddedColumns))
        final := by
  have permuted := entityScript_perm rfl groups.grouped
  have created := creations_entityScript permuted
  have ordered := entityScript_ordered rfl groups.distinct groups.free
  have settled := entityScript_settled rfl groups.distinct fun member =>
    (groups.free _ member).1 rfl
  have once : (declared (entityScript table)).Nodup := ordered.declared_nodup .nil
  obtain ⟨final, ran, locals, made, calls, returned⟩ := runMethod_eq context table ordered
  have names : final.locals.names = declared (entityScript table) := by
    rw [locals, Entries.names, List.zipIdx_map_fst]
  have fresh : final.locals.values.Nodup := by
    rw [locals, Entries.values, List.zipIdx_map_snd]
    exact List.nodup_range'
  have held {varName typeName : String}
      (member : (varName, typeName) ∈ creations (entityScript table)) :
      ∃ object, final.locals.get? varName = some object ∧
        final.objects[object]? = some (.named typeName) := by
    rw [locals, made]
    exact exists_created once member
  refine ⟨final, ran, ?_, names ▸ once, fresh, ?_, fun inst member => ?_, ?_, ?_⟩
  · rw [names, declared]
    simpa [Function.comp_def] using created.map Prod.fst
  · obtain ⟨object, holds, typed⟩ := held (created.mem_iff.mpr List.mem_cons_self)
    exact ⟨object, holds, typed, returned.trans holds⟩
  · exact held (created.mem_iff.mpr (List.mem_cons_of_mem _ (List.mem_map_of_mem member)))
  · rw [calls]
    simpa [Function.comp_def] using
      (calls_entityScript permuted).map (Action.call? context table final.locals)
  · exact calls_complete fresh (settled.filter _) calls

/-- The method that reads records rebuilds the entity of every table whose variables identify
embedded instances. -/
theorem toEntity_rebuilds (context : MapperContext) (table : Table)
    (identified : table.IdentifiesInstances) :
    ∃ (embedded : List Instance) (final : Machine),
      (∀ inst, inst ∈ embedded ↔ table.HasInstance inst) ∧ embedded.Nodup ∧
      Java.runMethod (method context table) = some final ∧
      Rebuilds context table embedded final := by
  have groups := groups_of_identified identified
  obtain ⟨final, ran, rebuilt⟩ := groups.rebuilds context
  exact ⟨_, final, groups.listed, groups.once, ran, rebuilt⟩

def storeSite : Embedding := ⟨"site", "example.Location", "location1"⟩

def storeDock : Embedding := ⟨"dock", "example.Location", "location2"⟩

def storedDouble (name fieldName : String) (parents : List Embedding) : Column :=
  ⟨"store", name, fieldName, ⟨"example", .named "double", "double", "", none⟩, parents⟩

/-- A store with two locations, each with a point, whose columns lie in turn. -/
def storeTable : Table where
  schema := ⟨"entities", "example"⟩
  name := "store"
  className := "example.Store"
  mappingEnabled := true
  columns := [
    storedDouble "dock_lat" "lat" [storeDock, ⟨"point", "example.Point", "point2"⟩],
    storedDouble "id" "id" [],
    storedDouble "label" "label" [storeSite],
    storedDouble "lat" "lat" [storeSite, ⟨"point", "example.Point", "point1"⟩],
    storedDouble "name" "label" [storeDock]]
  columns_sorted := by decide

/-- The store is rebuilt with both locations and both points. -/
theorem storeTable_rebuilds :
    storeTable.IdentifiesInstances ∧
      ∃ (embedded : List Instance) (final : Machine),
        (∀ inst, inst ∈ embedded ↔ storeTable.HasInstance inst) ∧
          Java.runMethod (method {} storeTable) = some final ∧
          Rebuilds {} storeTable embedded final := by
  have identified : storeTable.IdentifiesInstances := by decide +kernel
  obtain ⟨embedded, final, listed, _, ran, rebuilt⟩ := toEntity_rebuilds {} storeTable identified
  exact ⟨identified, embedded, final, listed, ran, rebuilt⟩

end ToEntity

end EntityMapper
