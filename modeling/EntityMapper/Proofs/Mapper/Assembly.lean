import EntityMapper.Proofs.Mapper.Grouping
import EntityMapper.Proofs.Mapper.Script

/-!
# The script of a mapper method

A mapper method as a script: the entity with its direct columns, then each outermost object with
all that is inside it. The script has one declaration and one handing over for each instance and
one setter for each column (`entityScript_perm`), uses nothing before its declaration
(`entityScript_ordered`), and leaves an object alone once it is handed over
(`entityScript_settled`).
-/
namespace EntityMapper

namespace EmbeddedObject

/-- The variables of the objects, at every depth. -/
def varNames : List EmbeddedObject → List String
  | [] => []
  | .of field _ inner :: rest => field.varName :: (varNames inner ++ varNames rest)

theorem map_varName_instances (outer : List Embedding) (objects : List EmbeddedObject) :
    (instances outer objects).map (·.field.varName) = varNames objects := by
  induction outer, objects using placed.induct with
  | case1 outer => simp [varNames]
  | case2 outer field columns inner rest ihInner ihRest => simp [varNames, ihInner, ihRest]

theorem varNames_cons (object : EmbeddedObject) (rest : List EmbeddedObject) :
    varNames (object :: rest) = varNames [object] ++ varNames rest := by
  obtain ⟨field, columns, inner⟩ := object
  simp [varNames]

theorem varName_mem_varNames {objects : List EmbeddedObject} {object : EmbeddedObject}
    (member : object ∈ objects) : object.field.varName ∈ varNames objects := by
  induction objects with
  | nil => cases member
  | cons first rest ih =>
    obtain ⟨field, columns, inner⟩ := first
    rw [varNames]
    rcases List.mem_cons.mp member with rfl | later
    · exact List.mem_cons_self
    · exact List.mem_cons_of_mem _ (List.mem_append_right _ (ih later))

end EmbeddedObject

/-- Embedded columns have an embedded field around them. -/
theorem Table.parents_ne_nil {table : Table} {column : Column}
    (member : column ∈ table.embeddedColumns) : column.parents ≠ [] := by
  simpa [embeddedColumns, Column.isEmbedded] using (List.mem_filter.mp member).2

namespace ToEntity

open EmbeddedObject (placed instances stored varNames)
open Java (Element)

/-- What is done for an object once the objects inside it are built: it is made, takes its columns
and is handed those objects. -/
def ownActions (field : Embedding) (columns : List Column) (inner : List EmbeddedObject) :
    List Action :=
  .create field.varName field.typeName :: columns.map (.fetch field.varName)
    ++ inner.map fun object => .attach field.varName object.field

/-- The actions that build all objects of a list, each after the objects inside it. -/
def buildScript : List EmbeddedObject → List Action
  | [] => []
  | .of field columns inner :: rest =>
    buildScript inner ++ ownActions field columns inner ++ buildScript rest

def entityScript (table : Table) : List Action :=
  .create entityVariable table.className :: table.directColumns.map (.fetch entityVariable)
    ++ (EmbeddedObject.ofColumns table.embeddedColumns).flatMap fun object =>
      buildScript [object] ++ [.attach entityVariable object.field]

theorem attachInner_eq (context : MapperContext) (table : Table) (owner : String)
    (objects : List EmbeddedObject) :
    attachInner owner objects =
      objects.map fun object => (Action.attach owner object.field).element context table := by
  induction objects with
  | nil => simp [attachInner]
  | cons object rest ih =>
    obtain ⟨field, columns, inner⟩ := object
    simp [attachInner, ih, Action.element, EmbeddedObject.field]

theorem buildInner_eq (context : MapperContext) (table : Table) (objects : List EmbeddedObject) :
    buildInner context table objects =
      (buildScript objects).map (Action.element context table) := by
  induction objects using buildScript.induct with
  | case1 => simp [buildInner, buildScript]
  | case2 field columns inner rest ihInner ihRest =>
    simp [buildInner, buildObject, buildScript, ownActions, ihInner, ihRest,
      attachInner_eq context table, Action.element, Function.comp_def]

theorem buildOutermost_eq (context : MapperContext) (table : Table)
    (objects : List EmbeddedObject) :
    buildOutermost context table objects = (objects.flatMap fun object =>
      buildScript [object] ++ [.attach entityVariable object.field]).map
        (Action.element context table) := by
  induction objects with
  | nil => simp [buildOutermost]
  | cons object rest ih =>
    have single : buildObject context table object =
        (buildScript [object]).map (Action.element context table) := by
      rw [← buildInner_eq, buildInner, buildInner, List.append_nil]
    rw [buildOutermost, ih, single]
    simp [Action.element]

theorem body_eq (context : MapperContext) (table : Table) :
    body context table = (entityScript table).map (Action.element context table)
      ++ [.result (some (.name entityVariable))] := by
  rw [body, buildOutermost_eq, entityScript]
  simp [Action.element, Function.comp_def]

/-- The variable that holds what a field inside `outer` belongs to. -/
def holder (outer : List Embedding) : String :=
  (outer.getLast?.map (·.varName)).getD entityVariable

@[simp] theorem holder_append (outer : List Embedding) (field : Embedding) :
    holder (outer ++ [field]) = field.varName := by
  simp [holder]

/-- All that is done for one instance. -/
def instanceActions : Instance × List Column → List Action
  | (inst, columns) => .create inst.field.varName inst.field.typeName
    :: (columns.map (.fetch inst.field.varName) ++ [.attach (holder inst.outer) inst.field])

/-- With the outermost objects handed over as well, a build does for each instance what is to be
done for it, and nothing else. -/
theorem buildScript_perm (outer : List Embedding) (objects : List EmbeddedObject) :
    (buildScript objects ++
      objects.map fun object => Action.attach (holder outer) object.field).Perm
        ((placed outer objects).flatMap instanceActions) := by
  induction outer, objects using EmbeddedObject.placed.induct with
  | case1 outer => simp [buildScript, placed]
  | case2 outer field columns inner rest ihInner ihRest =>
    rw [holder_append] at ihInner
    refine List.perm_iff_count.mpr fun action => ?_
    have inside := List.perm_iff_count.mp ihInner action
    have beside := List.perm_iff_count.mp ihRest action
    simp only [buildScript, ownActions, placed, instanceActions, List.flatMap_cons, List.flatMap_append,
      List.map_cons, List.count_append, List.count_cons, List.count_nil, List.cons_append,
      EmbeddedObject.field] at inside beside ⊢
    omega

/-- The actions by kind: one declaration and one handing over for each instance, and one setter
for each column. -/
theorem flatMap_instanceActions_perm (outer : List Embedding) (objects : List EmbeddedObject) :
    ((placed outer objects).flatMap instanceActions).Perm
      ((instances outer objects).map (fun inst => .create inst.field.varName inst.field.typeName)
        ++ (stored outer objects).map (fun (chain, column) => .fetch (holder chain) column)
        ++ (instances outer objects).map fun inst => .attach (holder inst.outer) inst.field) := by
  rw [instances, stored]
  induction placed outer objects with
  | nil => simp
  | cons entry rest ih =>
    obtain ⟨inst, columns⟩ := entry
    have fetched : (columns.map (inst.chain, ·)).map (fun (chain, column) =>
        Action.fetch (holder chain) column) = columns.map (.fetch inst.field.varName) := by
      simp [Instance.chain, Function.comp_def]
    refine List.perm_iff_count.mpr fun action => ?_
    have others := List.perm_iff_count.mp ih action
    simp only [instanceActions, List.flatMap_cons, List.map_cons, List.map_append, fetched,
      List.count_append, List.count_cons, List.count_nil, List.cons_append] at others ⊢
    omega

/-- The outermost objects handed over one by one or all at the end. -/
theorem flatMap_buildScript_perm (objects : List EmbeddedObject) :
    (objects.flatMap fun object =>
        buildScript [object] ++ [Action.attach entityVariable object.field]).Perm
      (buildScript objects ++
        objects.map fun object => Action.attach (holder []) object.field) := by
  induction objects with
  | nil => simp [buildScript]
  | cons object rest ih =>
    obtain ⟨field, columns, inner⟩ := object
    refine List.perm_iff_count.mpr fun action => ?_
    have others := List.perm_iff_count.mp ih action
    simp only [buildScript, List.flatMap_cons, List.map_cons, List.count_append, List.count_cons,
      List.count_nil, List.append_nil, EmbeddedObject.field, holder,
      List.getLast?_nil, Option.map_none, Option.getD_none] at others ⊢
    omega

theorem columns_perm (table : Table) :
    (table.directColumns ++ table.embeddedColumns).Perm table.columns := by
  have halves := List.filter_append_perm (fun column : Column => !column.isEmbedded) table.columns
  simpa [Table.directColumns, Table.embeddedColumns] using halves

/-- The script by kind of action: every variable is declared once, every column is stored once in
the object of its innermost parent, and every instance is handed over once to what is around it. -/
theorem entityScript_perm {table : Table} {objects : List EmbeddedObject}
    (made : EmbeddedObject.ofColumns table.embeddedColumns = objects)
    (grouped : (stored [] objects).Perm
      (table.embeddedColumns.map fun column => (column.parents, column))) :
    (entityScript table).Perm (.create entityVariable table.className ::
      ((instances [] objects).map (fun inst => .create inst.field.varName inst.field.typeName)
        ++ table.columns.map (fun column => .fetch (holder column.parents) column)
        ++ (instances [] objects).map fun inst => .attach (holder inst.outer) inst.field)) := by
  have direct : table.directColumns.map (fun column => Action.fetch (holder column.parents) column) =
      table.directColumns.map (.fetch entityVariable) := by
    refine List.map_congr_left fun column member => ?_
    have own : column.parents = [] := by
      simpa [Table.directColumns, Column.isEmbedded] using (List.mem_filter.mp member).2
    rw [own]
    rfl
  have embedded := grouped.map fun entry : List Embedding × Column =>
    Action.fetch (holder entry.1) entry.2
  rw [List.map_map] at embedded
  have columns := (columns_perm table).map fun column =>
    Action.fetch (holder column.parents) column
  rw [List.map_append, direct] at columns
  have built := ((flatMap_buildScript_perm objects).trans (buildScript_perm [] objects)).trans
    (flatMap_instanceActions_perm [] objects)
  refine List.perm_iff_count.mpr fun action => ?_
  have countedEmbedded := List.perm_iff_count.mp embedded action
  have countedColumns := List.perm_iff_count.mp columns action
  have countedBuilt := List.perm_iff_count.mp built action
  simp only [entityScript, made, List.count_append, List.count_cons, List.cons_append,
    Function.comp_def] at countedEmbedded countedColumns countedBuilt ⊢
  omega

theorem fetch_isCall (owner : String) (columns : List Column) :
    ∀ action ∈ columns.map (Action.fetch owner), action.isCall = true := by
  simp [Action.isCall, Action.created?]

theorem attach_isCall (owner : String) (objects : List EmbeddedObject) :
    ∀ action ∈ objects.map (fun object => Action.attach owner object.field),
      action.isCall = true := by
  simp [Action.isCall, Action.created?]

@[simp] theorem declared_ownActions (field : Embedding) (columns : List Column)
    (inner : List EmbeddedObject) : declared (ownActions field columns inner) = [field.varName] := by
  have fetches := creations_of_calls (fetch_isCall field.varName columns)
  have attaches := creations_of_calls (attach_isCall field.varName inner)
  simp [declared, ownActions, fetches, attaches]

/-- A build declares the variables of its objects. -/
theorem mem_declared_buildScript (objects : List EmbeddedObject) (varName : String) :
    varName ∈ declared (buildScript objects) ↔ varName ∈ varNames objects := by
  induction objects using buildScript.induct with
  | case1 => simp [buildScript, varNames, declared]
  | case2 field columns inner rest ihInner ihRest =>
    rw [buildScript, declared_append, declared_append, declared_ownActions, varNames]
    simp only [List.mem_append, List.mem_cons, ihInner, ihRest]
    tauto

/-- The own actions of an object use its variable and those of the objects inside. -/
theorem ownActions_ordered (field : Embedding) (columns : List Column)
    (inner : List EmbeddedObject) (known : List String) (fresh : field.varName ∉ known)
    (unreserved : field.varName ≠ recordVariable)
    (built : ∀ varName ∈ varNames inner, varName ∈ known) :
    Scoped known (ownActions field columns inner) := by
  have fetches := creations_of_calls (fetch_isCall field.varName columns)
  rw [ownActions, scoped_append, Scoped]
  refine ⟨⟨⟨fresh, unreserved⟩, ?_⟩, ?_⟩
  · refine scoped_of_calls (fetch_isCall field.varName columns) fun action member => ?_
    obtain ⟨column, _, rfl⟩ := List.mem_map.mp member
    simp [Action.Ready, declared]
  · refine scoped_of_calls (attach_isCall field.varName inner) fun action member => ?_
    obtain ⟨object, inInner, rfl⟩ := List.mem_map.mp member
    have known := built _ (EmbeddedObject.varName_mem_varNames inInner)
    simp [Action.Ready, declared, fetches, known]

/-- A build declares every variable before it uses it. -/
theorem buildScript_ordered (objects : List EmbeddedObject) (known : List String)
    (distinct : (varNames objects).Nodup)
    (fresh : ∀ varName ∈ varNames objects, varName ∉ known ∧ varName ≠ recordVariable) :
    Scoped known (buildScript objects) := by
  induction objects using buildScript.induct generalizing known with
  | case1 => simp [buildScript, Scoped]
  | case2 field columns inner rest ihInner ihRest =>
    rw [varNames] at distinct fresh
    obtain ⟨apart, others⟩ := List.nodup_cons.mp distinct
    obtain ⟨inside, beside, disjoint⟩ := List.nodup_append.mp others
    obtain ⟨here, deeper⟩ := List.forall_mem_cons.mp fresh
    rw [buildScript, scoped_append, scoped_append]
    refine ⟨⟨?_, ?_⟩, ?_⟩
    · exact ihInner known inside fun varName member => deeper varName (List.mem_append_left _ member)
    · refine ownActions_ordered field columns inner _ (fun member => ?_) here.2 fun varName member =>
        List.mem_append_right _ ((mem_declared_buildScript inner varName).mpr member)
      rcases List.mem_append.mp member with old | built
      · exact here.1 old
      · exact apart (List.mem_append_left _ ((mem_declared_buildScript inner _).mp built))
    · refine ihRest _ beside fun varName member => ?_
      have unknown := deeper varName (List.mem_append_right _ member)
      have own : varName ≠ field.varName := by
        rintro rfl
        exact apart (List.mem_append_right _ member)
      have notInner : varName ∉ declared (buildScript inner) := fun built =>
        disjoint _ ((mem_declared_buildScript inner _).mp built) _ member rfl
      refine ⟨?_, unknown.2⟩
      simp [unknown.1, own, notInner]

theorem outermost_ordered (objects : List EmbeddedObject) (known : List String)
    (entity : entityVariable ∈ known) (distinct : (varNames objects).Nodup)
    (fresh : ∀ varName ∈ varNames objects, varName ∉ known ∧ varName ≠ recordVariable) :
    Scoped known (objects.flatMap fun object =>
      buildScript [object] ++ [.attach entityVariable object.field]) := by
  induction objects generalizing known with
  | nil => trivial
  | cons object rest ih =>
    rw [EmbeddedObject.varNames_cons] at distinct fresh
    obtain ⟨single, others, disjoint⟩ := List.nodup_append.mp distinct
    have built := (mem_declared_buildScript [object] object.field.varName).mpr
      (EmbeddedObject.varName_mem_varNames List.mem_cons_self)
    rw [List.flatMap_cons, scoped_append, scoped_append]
    refine ⟨⟨?_, ⟨?_, trivial⟩⟩, ih _ ?_ others fun varName member => ?_⟩
    · exact buildScript_ordered [object] known single fun varName member =>
        fresh varName (List.mem_append_left _ member)
    · exact ⟨List.mem_append_left _ entity, List.mem_append_right _ built⟩
    · exact List.mem_append_left _ entity
    · have unknown := fresh varName (List.mem_append_right _ member)
      have notObject : varName ∉ declared (buildScript [object]) := fun here =>
        disjoint _ ((mem_declared_buildScript [object] _).mp here) _ member rfl
      refine ⟨?_, unknown.2⟩
      simp only [declared] at notObject
      simp [declared, unknown.1, notObject]

/-- The script declares every variable before it uses it. -/
theorem entityScript_ordered {table : Table} {objects : List EmbeddedObject}
    (made : EmbeddedObject.ofColumns table.embeddedColumns = objects)
    (distinct : (varNames objects).Nodup)
    (free : ∀ varName ∈ varNames objects,
      varName ≠ entityVariable ∧ varName ≠ recordVariable) :
    Scoped [] (entityScript table) := by
  have fetches := creations_of_calls (fetch_isCall entityVariable table.directColumns)
  rw [entityScript, made, scoped_append, Scoped]
  refine ⟨⟨by simp [Action.Ready, entityVariable, recordVariable], ?_⟩, ?_⟩
  · refine scoped_of_calls (fetch_isCall entityVariable table.directColumns) fun action member => ?_
    obtain ⟨column, _, rfl⟩ := List.mem_map.mp member
    simp [Action.Ready, declared]
  · refine outermost_ordered objects _ (by simp [declared]) distinct fun varName member => ?_
    simpa [declared, fetches] using free varName member

/-- The object that the action calls a setter of. -/
def Action.owner? : Action → Option String
  | create _ _ => none
  | fetch owner _ => some owner
  | attach owner _ => some owner

/-- Names of variables in the action. -/
def Action.names : Action → List String
  | create varName _ => [varName]
  | fetch owner _ => [owner]
  | attach owner field => [owner, field.varName]

/-- Once an object is handed over, nothing more is set on it, and no more columns are stored in
the object that took it. -/
def Settled (earlier later : Action) : Prop :=
  ∀ owner field, earlier = .attach owner field →
    later.owner? ≠ some field.varName ∧ ∀ column, later ≠ .fetch owner column

/-- An action that sets something on an object unknown to the earlier action. -/
theorem settled_of_owner {earlier later : Action}
    (apart : ∀ owner, later.owner? = some owner → owner ∉ earlier.names) :
    Settled earlier later := by
  rintro owner field rfl
  refine ⟨fun same => ?_, fun column same => ?_⟩
  · exact apart _ same (by simp [Action.names])
  · exact apart owner (by rw [same, Action.owner?]) (by simp [Action.names])

theorem settled_of_fetch (owner : String) (column : Column) (later : Action) :
    Settled (.fetch owner column) later := by
  rintro _ _ ⟨⟩

theorem settled_of_create (varName typeName : String) (later : Action) :
    Settled (.create varName typeName) later := by
  rintro _ _ ⟨⟩

theorem owner_mem_names {action : Action} {owner : String} (owns : action.owner? = some owner) :
    owner ∈ action.names := by
  cases action <;> simp_all [Action.owner?, Action.names]

theorem owner?_ownActions {field : Embedding} {columns : List Column}
    {inner : List EmbeddedObject} {action : Action}
    (member : action ∈ ownActions field columns inner) {owner : String}
    (owns : action.owner? = some owner) : owner = field.varName := by
  rcases List.mem_append.mp member with own | handed
  · rcases List.mem_cons.mp own with rfl | fetched
    · cases owns
    · obtain ⟨column, _, rfl⟩ := List.mem_map.mp fetched
      exact (Option.some.inj owns).symm
  · obtain ⟨object, _, rfl⟩ := List.mem_map.mp handed
    exact (Option.some.inj owns).symm

theorem names_ownActions {field : Embedding} {columns : List Column} {inner : List EmbeddedObject}
    {action : Action} (member : action ∈ ownActions field columns inner) {varName : String}
    (named : varName ∈ action.names) : varName = field.varName ∨ varName ∈ varNames inner := by
  rcases List.mem_append.mp member with own | handed
  · rcases List.mem_cons.mp own with rfl | fetched
    · exact .inl (List.mem_singleton.mp named)
    · obtain ⟨column, _, rfl⟩ := List.mem_map.mp fetched
      exact .inl (List.mem_singleton.mp named)
  · obtain ⟨object, inInner, rfl⟩ := List.mem_map.mp handed
    rcases List.mem_cons.mp named with own | attached
    · exact .inl own
    · rw [List.mem_singleton.mp attached]
      exact .inr (EmbeddedObject.varName_mem_varNames inInner)

/-- A build names only variables of its objects. -/
theorem names_buildScript (objects : List EmbeddedObject) :
    ∀ action ∈ buildScript objects, ∀ varName ∈ action.names, varName ∈ varNames objects := by
  induction objects using buildScript.induct with
  | case1 => simp [buildScript]
  | case2 field columns inner rest ihInner ihRest =>
    intro action member varName named
    rw [varNames, List.mem_cons, List.mem_append]
    rw [buildScript, List.mem_append, List.mem_append] at member
    rcases member with (inside | own) | beside
    · exact .inr (.inl (ihInner action inside varName named))
    · exact (names_ownActions own named).imp_right .inl
    · exact .inr (.inr (ihRest action beside varName named))

theorem ownActions_settled (field : Embedding) (columns : List Column)
    (inner : List EmbeddedObject) (apart : field.varName ∉ varNames inner) :
    (ownActions field columns inner).Pairwise Settled := by
  refine List.pairwise_append.mpr ⟨?_, ?_, ?_⟩
  · refine List.pairwise_cons.mpr ⟨fun later _ => settled_of_create _ _ later, ?_⟩
    exact List.pairwise_map.mpr (List.pairwise_of_forall fun _ _ => settled_of_fetch _ _ _)
  · refine List.pairwise_map.mpr (List.pairwise_of_forall_mem_list fun first inInner second _ => ?_)
    rintro owner handed ⟨⟩
    refine ⟨fun same => apart ?_, fun column => by simp⟩
    rw [Option.some.inj same]
    exact EmbeddedObject.varName_mem_varNames inInner
  · intro earlier member later _
    rcases List.mem_cons.mp member with rfl | fetched
    · exact settled_of_create _ _ later
    · obtain ⟨column, _, rfl⟩ := List.mem_map.mp fetched
      exact settled_of_fetch _ _ later

/-- Nothing is set on an object after it is handed over. -/
theorem buildScript_settled (objects : List EmbeddedObject) (distinct : (varNames objects).Nodup) :
    (buildScript objects).Pairwise Settled := by
  induction objects using buildScript.induct with
  | case1 => simp [buildScript]
  | case2 field columns inner rest ihInner ihRest =>
    rw [varNames] at distinct
    obtain ⟨apart, others⟩ := List.nodup_cons.mp distinct
    obtain ⟨inside, beside, disjoint⟩ := List.nodup_append.mp others
    have notInner : field.varName ∉ varNames inner := fun member =>
      apart (List.mem_append_left _ member)
    rw [buildScript]
    refine List.pairwise_append.mpr ⟨List.pairwise_append.mpr ⟨ihInner inside,
      ownActions_settled field columns inner notInner, ?_⟩, ihRest beside, ?_⟩
    · intro earlier built later own
      refine settled_of_owner fun owner owns named => notInner ?_
      rw [← owner?_ownActions own owns]
      exact names_buildScript inner earlier built owner named
    · intro earlier before later after
      refine settled_of_owner fun owner owns named => ?_
      have ofRest := names_buildScript rest later after owner (owner_mem_names owns)
      rcases List.mem_append.mp before with built | own
      · exact disjoint _ (names_buildScript inner earlier built owner named) _ ofRest rfl
      · rcases names_ownActions own named with rfl | ofInner
        · exact apart (List.mem_append_right _ ofRest)
        · exact disjoint _ ofInner _ ofRest rfl

/-- What follows the direct columns builds objects or hands them to the entity. -/
theorem mem_outermost {objects : List EmbeddedObject} {action : Action}
    (member : action ∈ objects.flatMap fun object =>
      buildScript [object] ++ [.attach entityVariable object.field]) :
    (∃ field, action = .attach entityVariable field) ∨
      ∀ varName ∈ action.names, varName ∈ varNames objects := by
  induction objects with
  | nil => cases member
  | cons object rest ih =>
    rw [EmbeddedObject.varNames_cons]
    rw [List.flatMap_cons, List.mem_append, List.mem_append] at member
    rcases member with (built | handed) | later
    · exact .inr fun varName named =>
        List.mem_append_left _ (names_buildScript [object] action built varName named)
    · exact .inl ⟨object.field, List.mem_singleton.mp handed⟩
    · exact (ih later).imp_right fun named varName belongs =>
        List.mem_append_right _ (named varName belongs)

theorem outermost_settled (objects : List EmbeddedObject) (distinct : (varNames objects).Nodup)
    (free : entityVariable ∉ varNames objects) :
    (objects.flatMap fun object =>
      buildScript [object] ++ [.attach entityVariable object.field]).Pairwise Settled := by
  induction objects with
  | nil => exact .nil
  | cons object rest ih =>
    rw [EmbeddedObject.varNames_cons] at distinct free
    obtain ⟨single, others, disjoint⟩ := List.nodup_append.mp distinct
    obtain ⟨freeObject, freeRest⟩ := not_or.mp (mt List.mem_append.mpr free)
    have own := EmbeddedObject.varName_mem_varNames (List.mem_cons_self (a := object) (l := []))
    rw [List.flatMap_cons]
    refine List.pairwise_append.mpr ⟨List.pairwise_append.mpr
      ⟨buildScript_settled [object] single, List.pairwise_singleton _ _, ?_⟩, ih others freeRest, ?_⟩
    · intro earlier built later handed
      refine settled_of_owner fun owner owns named => freeObject ?_
      rw [List.mem_singleton.mp handed] at owns
      cases owns
      exact names_buildScript [object] earlier built _ named
    · intro earlier before later after
      rcases List.mem_append.mp before with built | handed
      · refine settled_of_owner fun owner owns named => ?_
        have ofObject := names_buildScript [object] earlier built owner named
        rcases mem_outermost after with ⟨field, rfl⟩ | ofRest
        · cases owns
          exact freeObject ofObject
        · exact disjoint _ ofObject _ (ofRest owner (owner_mem_names owns)) rfl
      · cases List.mem_singleton.mp handed
        rintro _ _ ⟨⟩
        rcases mem_outermost after with ⟨field, rfl⟩ | ofRest
        · refine ⟨fun same => freeObject ?_, fun column => by simp⟩
          rw [Option.some.inj same]
          exact own
        · refine ⟨fun same => ?_, fun column same => ?_⟩
          · exact disjoint _ own _ (ofRest _ (owner_mem_names same)) rfl
          · exact freeRest (ofRest _ (by simp [same, Action.names]))

theorem entityScript_settled {table : Table} {objects : List EmbeddedObject}
    (made : EmbeddedObject.ofColumns table.embeddedColumns = objects)
    (distinct : (varNames objects).Nodup) (free : entityVariable ∉ varNames objects) :
    (entityScript table).Pairwise Settled := by
  rw [entityScript, made]
  refine List.pairwise_append.mpr ⟨?_, outermost_settled objects distinct free, ?_⟩
  · refine List.pairwise_cons.mpr ⟨fun later _ => settled_of_create _ _ later, ?_⟩
    exact List.pairwise_map.mpr (List.pairwise_of_forall fun _ _ => settled_of_fetch _ _ _)
  · intro earlier member later _
    rcases List.mem_cons.mp member with rfl | fetched
    · exact settled_of_create _ _ later
    · obtain ⟨column, _, rfl⟩ := List.mem_map.mp fetched
      exact settled_of_fetch _ _ later

end ToEntity

end EntityMapper
