import EntityMapper.Proofs.Extraction.Bulk
import EntityMapper.Proofs.Extraction.Columns
import EntityMapper.Proofs.Manifest.Distinct
import EntityMapper.Proofs.Manifest.Reading
import EntityMapper.Proofs.Mapper.Instances

/-!
# Setters that a mapper method calls

The method that reads records sets each column's field and each embedded one, and nothing else
(`setterCalls_perm`). Where variables identify instances and fields differ in name, it calls a
setter twice on one variable only for two fields of one class whose names are capitalised alike, or,
on the entity, for fields of two of its levels (`repeated_setters`). Both happen
(`hostManifest_repeats_setters`).
-/
namespace EntityMapper

/-- A value that occurs twice in the image of a list without repetition has two sources. -/
theorem exists_ne_of_one_lt_count {α β : Type} [BEq β] [LawfulBEq β] {f : α → β} {list : List α}
    (distinct : list.Nodup) {b : β} (twice : 1 < (list.map f).count b) :
    ∃ x ∈ list, ∃ y ∈ list, x ≠ y ∧ f x = b ∧ f y = b := by
  have sources := distinct.filter (fun a => f a == b)
  rw [List.count, List.countP_map, List.countP_eq_length_filter] at twice
  change 1 < (list.filter fun a => f a == b).length at twice
  have member : ∀ a ∈ list.filter (fun a => f a == b), a ∈ list ∧ f a = b := by simp
  match split : list.filter (fun a => f a == b) with
  | [] => simp [split] at twice
  | [_] => simp [split] at twice
  | x :: y :: rest =>
    rw [split] at sources member
    obtain ⟨inX, imageX⟩ := member x (by simp)
    obtain ⟨inY, imageY⟩ := member y (by simp)
    exact ⟨x, inX, y, inY, fun same => by simp [same] at sources, imageX, imageY⟩

namespace ToEntity

open EmbeddedObject (instances stored)
open Java (Element)

/-- Variable and setter of a statement that calls one. -/
def setterCall? : Element → Option (String × String)
  | .expr (.call (some (.name owner)) method _) => some (owner, method)
  | _ => none

/-- The setters that a method body calls, each with its variable. -/
def setterCalls (elements : List Element) : List (String × String) :=
  elements.filterMap setterCall?

/-- What the method sets: the field of a column, or an embedded one. -/
inductive Assignment where
  | store (column : Column)
  | handOver (inst : Instance)

namespace Assignment

/-- The embedded fields around the one that is set. -/
def outer : Assignment → List Embedding
  | store column => column.parents
  | handOver inst => inst.outer

def fieldName : Assignment → String
  | store column => column.fieldName
  | handOver inst => inst.field.fieldName

def call (assignment : Assignment) : String × String :=
  (holder assignment.outer, Java.setterName assignment.fieldName)

/-- The column is stored, or lies in what is handed over. -/
def Serves : Assignment → Column → Prop
  | store stored, column => stored = column
  | handOver inst, column => inst.chain <+: column.parents

variable {assignment : Assignment} {column : Column}

theorem Serves.outer_begins (serves : assignment.Serves column) :
    assignment.outer <+: column.parents := by
  cases assignment with
  | store stored => exact (congrArg Column.parents serves) ▸ List.prefix_rfl
  | handOver inst => exact (List.prefix_append _ _).trans serves

/-- The names down to the field that is set begin those of the column. -/
theorem Serves.names_begin (serves : assignment.Serves column) :
    assignment.outer.map (·.fieldName) ++ [assignment.fieldName] <+: column.path := by
  cases assignment with
  | store stored => exact (congrArg Column.path serves) ▸ List.prefix_rfl
  | handOver inst =>
    have names := serves.map (·.fieldName)
    rw [Instance.chain, List.map_append] at names
    exact names.trans (List.prefix_append _ _)

end Assignment

/-- What the method of a table sets. -/
def assignments (table : Table) (objects : List EmbeddedObject) : List Assignment :=
  table.columns.map .store ++ (instances [] objects).map .handOver

/-- The method sets each column's field and each embedded one once, and nothing else. -/
theorem setterCalls_perm {table : Table} {objects : List EmbeddedObject}
    (made : EmbeddedObject.ofColumns table.embeddedColumns = objects)
    (grouped : (stored [] objects).Perm
      (table.embeddedColumns.map fun column => (column.parents, column)))
    (context : MapperContext) :
    (setterCalls (body context table)).Perm ((assignments table objects).map Assignment.call) := by
  have permuted := (entityScript_perm made grouped).filterMap
    (setterCall? ∘ Action.element context table)
  have fetch (column : Column) : setterCall?
      (Action.element context table (.fetch (holder column.parents) column)) =
        some (Assignment.call (.store column)) := rfl
  have attach (inst : Instance) : setterCall?
      (Action.element context table (.attach (holder inst.outer) inst.field)) =
        some (Assignment.call (.handOver inst)) := rfl
  have create (varName typeName : String) : setterCall?
      (Action.element context table (.create varName typeName)) = none := rfl
  have result : setterCall? (.result (some (.name entityVariable))) = none := rfl
  rw [setterCalls, body_eq, List.filterMap_append, List.filterMap_map,
    List.filterMap_cons_none result, List.filterMap_nil, List.append_nil]
  simpa [assignments, fetch, attach, create, List.filterMap_map, Function.comp_def]
    using permuted

theorem count_stores_le {table : Table} {objects : List EmbeddedObject}
    (made : EmbeddedObject.ofColumns table.embeddedColumns = objects)
    (grouped : (stored [] objects).Perm
      (table.embeddedColumns.map fun column => (column.parents, column)))
    (context : MapperContext) (call : String × String) :
    (table.columns.map fun column => (holder column.parents, column.setter)).count call ≤
      (setterCalls (body context table)).count call := by
  rw [(setterCalls_perm made grouped context).count_eq, assignments, List.map_append,
    List.count_append, List.map_map]
  exact Nat.le_add_right _ _

/-- Everything the method sets serves a column. -/
theorem exists_served {table : Table} {objects : List EmbeddedObject} (groups : Groups table objects)
    {assignment : Assignment} (member : assignment ∈ assignments table objects) :
    ∃ column ∈ table.columns, assignment.Serves column := by
  rcases List.mem_append.mp member with stored | handed
  · obtain ⟨column, inTable, rfl⟩ := List.mem_map.mp stored
    exact ⟨column, inTable, rfl⟩
  · obtain ⟨inst, inObjects, rfl⟩ := List.mem_map.mp handed
    exact (groups.listed inst).mp inObjects

theorem assignments_nodup {table : Table} {objects : List EmbeddedObject}
    (groups : Groups table objects) (distinct : table.columns.Nodup) :
    (assignments table objects).Nodup := by
  refine List.nodup_append'.mpr ⟨distinct.map fun a b same => Assignment.store.inj same,
    groups.once.map fun a b same => Assignment.handOver.inj same, fun assignment stored handed => ?_⟩
  obtain ⟨column, _, rfl⟩ := List.mem_map.mp stored
  obtain ⟨inst, _, same⟩ := List.mem_map.mp handed
  cases same

/-- Where variables identify instances, what one variable holds lies inside the same fields. -/
theorem eq_of_holder {table : Table} (identified : table.IdentifiesInstances) {a b : Column}
    (ofA : a ∈ table.columns) (ofB : b ∈ table.columns) {first second : List Embedding}
    (inA : first <+: a.parents) (inB : second <+: b.parents) (same : holder first = holder second) :
    first = second := by
  rcases List.eq_nil_or_concat' first with rfl | ⟨outer, field, rfl⟩
  · rcases List.eq_nil_or_concat' second with rfl | ⟨outer, field, rfl⟩
    · rfl
    · rw [holder_append] at same
      exact absurd same.symm (identified.free b ofB field (inB.subset (by simp))).1
  · rcases List.eq_nil_or_concat' second with rfl | ⟨other, field', rfl⟩
    · rw [holder_append] at same
      exact absurd same (identified.free a ofA field (inA.subset (by simp))).1
    · rw [holder_append, holder_append] at same
      exact congrArg Instance.chain
        (identified.agree a ofA b ofB ⟨outer, field⟩ ⟨other, field'⟩ inA inB same)

/-- At one level, names tell apart what is set. -/
theorem Assignment.eq_of_names {mapping : Mapping} {decl : ClassDeclaration}
    {options : TableOptions} {parent : Scope} {walk : TableWalk mapping decl options parent}
    (classes : mapping.metadata.DistinctFields) (declared : decl ∈ mapping.metadata.classes)
    {level : ClassDeclaration} {pathA pathB : FieldPath} {a b : Column}
    (originA : walk.Origin level pathA a) (originB : walk.Origin level pathB b)
    {first second : Assignment} (servesA : first.Serves a) (servesB : second.Serves b)
    (outer : first.outer = second.outer) (names : first.fieldName = second.fieldName) :
    first = second := by
  -- A column cannot lie on the way of one that passes through an embedded field of its name.
  have apart {column other : Column} {inst : Instance} {path pathOther : FieldPath}
      (origin : walk.Origin level path column) (originOther : walk.Origin level pathOther other)
      (within : inst.chain <+: other.parents) (outer : column.parents = inst.outer)
      (named : column.fieldName = inst.field.fieldName) : False := by
    have way : column.path = inst.chain.map (·.fieldName) := by
      simp [Column.path, Instance.chain, outer, named]
    have begins : column.path <+: other.parents.map (·.fieldName) :=
      way ▸ within.map (·.fieldName)
    have same := origin.path_eq_of_begins classes declared originOther
      (begins.trans (List.prefix_append _ _))
    have longer := begins.length_le
    rw [same, Column.path, List.length_append] at longer
    simp at longer
  cases first with
  | store column =>
    cases second with
    | store other =>
      cases servesA
      cases servesB
      have same : a.path = b.path := by
        rw [Column.path, Column.path]
        exact congrArg₂ (fun parents name => parents.map (·.fieldName) ++ [name]) outer names
      rw [originA.eq_of_names classes declared originB same]
    | handOver inst =>
      cases servesA
      exact (apart originA originB servesB outer names).elim
  | handOver inst =>
    cases second with
    | store other =>
      cases servesB
      exact (apart originB originA servesA outer.symm names.symm).elim
    | handOver other =>
      have ways : inst.chain.map (·.fieldName) = other.chain.map (·.fieldName) := by
        rw [Instance.chain, Instance.chain, List.map_append, List.map_append]
        exact congrArg₂ (fun outer name => outer.map Embedding.fieldName ++ [name]) outer names
      have shared := originA.take_parents classes declared originB
        (servesA.map (·.fieldName)) (ways ▸ servesB.map (·.fieldName))
      have counted : inst.chain.length = other.chain.length := by
        simpa using congrArg List.length ways
      rw [List.length_map] at shared
      have chains : inst.chain = other.chain := by
        rw [List.prefix_iff_eq_take.mp servesA, shared, counted,
          ← List.prefix_iff_eq_take.mp servesB]
      obtain ⟨_, field⟩ := List.append_inj' chains rfl
      cases inst
      cases other
      simp_all [Assignment.outer]

end ToEntity

/-- A column of the level has the field of that name, inside those named `outer`, on its way. -/
def TableWalk.HasField {mapping : Mapping} {decl : ClassDeclaration} {options : TableOptions}
    {parent : Scope} (walk : TableWalk mapping decl options parent) (table : Table)
    (level : ClassDeclaration) (outer : List String) (name : String) : Prop :=
  ∃ column ∈ table.columns, ∃ path, walk.Origin level path column ∧ outer ++ [name] <+: column.path

open ToEntity (body setterCalls entityVariable) in
/-- Where its variables identify instances, the mapper method of a table calls a setter twice on one
variable only for two fields of one class, met at one level inside the same fields, or, on the
entity, for fields of two of the levels it inherits from. -/
theorem repeated_setters (source file : String) (manifest : Manifest) (tables : List Table)
    (table : Table) (context : MapperContext) (parsed : Manifest.parse source file = .ok manifest)
    (built : (Mapping.ofManifest manifest).tables = .ok tables) (member : table ∈ tables)
    (identified : table.IdentifiesInstances) :
    ∃ decl ∈ manifest.classes, ∃ options base,
      ∃ walk : TableWalk (.ofManifest manifest) decl options base,
        (Mapping.ofManifest manifest).buildIn decl options base = .ok table ∧
        ∀ owner setter, 1 < (setterCalls (body context table)).count (owner, setter) →
          ∃ levelA levelB outer first second,
            walk.HasField table levelA outer first ∧ walk.HasField table levelB outer second ∧
            Java.setterName first = setter ∧ Java.setterName second = setter ∧
            (levelA = levelB ∧ first ≠ second ∨
              levelA ≠ levelB ∧ options.inheritance = true ∧ outer = [] ∧
                owner = entityVariable) := by
  have classes := (Manifest.parse_distinct parsed).2
  obtain ⟨base, _, built⟩ := bind_eq_ok.mp built
  obtain ⟨decl, declared, options, _, made⟩ := Mapping.exists_of_mem_tables built member
  obtain ⟨walk, origins⟩ := Mapping.buildIn_origins made
  refine ⟨decl, declared, options, base, walk, made, fun owner setter twice => ?_⟩
  have distinct : table.columns.Nodup :=
    (Mapping.buildIn_ascending made).imp fun less same => String.ne_of_lt less (congrArg _ same)
  have groups := ToEntity.groups_of_identified identified
  rw [(ToEntity.setterCalls_perm rfl groups.grouped context).count_eq] at twice
  obtain ⟨first, inFirst, second, inSecond, differ, callFirst, callSecond⟩ :=
    exists_ne_of_one_lt_count (ToEntity.assignments_nodup groups distinct) twice
  obtain ⟨a, ofA, servesA⟩ := ToEntity.exists_served groups inFirst
  obtain ⟨b, ofB, servesB⟩ := ToEntity.exists_served groups inSecond
  obtain ⟨levelA, pathA, originA⟩ := origins a ofA
  obtain ⟨levelB, pathB, originB⟩ := origins b ofB
  obtain ⟨heldFirst, setsFirst⟩ := Prod.mk.inj callFirst
  obtain ⟨heldSecond, setsSecond⟩ := Prod.mk.inj callSecond
  have outer : first.outer = second.outer := ToEntity.eq_of_holder identified ofA ofB
    servesA.outer_begins servesB.outer_begins (heldFirst.trans heldSecond.symm)
  refine ⟨levelA, levelB, first.outer.map (·.fieldName), first.fieldName, second.fieldName,
    ⟨a, ofA, pathA, originA, servesA.names_begin⟩,
    ⟨b, ofB, pathB, originB, outer ▸ servesB.names_begin⟩, setsFirst, setsSecond, ?_⟩
  by_cases level : levelA = levelB
  · subst level
    exact .inl ⟨rfl, fun names => differ (ToEntity.Assignment.eq_of_names classes declared originA
      originB servesA servesB outer names)⟩
  · -- Inside an embedded field, both columns would pass through one instance.
    rcases List.eq_nil_or_concat' first.outer with direct | ⟨around, field, inside⟩
    · refine .inr ⟨level, originA.inheritance originB level, by rw [direct, List.map_nil], ?_⟩
      rw [← heldFirst, direct]
      rfl
    · have inA := servesA.outer_begins
      have inB := servesB.outer_begins
      rw [← outer] at inB
      rw [inside] at inA inB
      let shared : Instance := ⟨around, field⟩
      have ofA : shared.chain <+: a.parents := inA
      exact absurd (originA.level_eq originB ofA inB) level

/-- A host on a site, with a key of its own beside that of a node, and two fields that differ only
in case. -/
def hostText : String := "[[classes]]
name='Host'
superclass='Node'
table=['hosts',true]
fields=[['key','long',false,false,['host']],['IPs','long'],['IPS','long']]
[[classes]]
name='Node'
fields=[['key','long'],\x7bname='site',type='Site',embedded=true\x7d]
[[classes]]
name='Site'
kind='embeddable'
fields=[['row','long']]
"

def hostClass : ClassDeclaration where
  name := "Host"
  superclass := some "Node"
  table := some { name := some "hosts", inheritance := true }
  fields := [
    { name := "key", type := "long", column := some { name := some "host" } },
    { name := "IPs", type := "long" }, { name := "IPS", type := "long" }]

def hostManifest : Manifest where
  classes := [
    hostClass,
    { name := "Node"
      fields := [
        { name := "key", type := "long" },
        { name := "site", type := "Site", embedded := some [] }] },
    { name := "Site", kind := .embeddable, fields := [{ name := "row", type := "long" }] }]

set_option maxRecDepth 2000 in
theorem hostManifest_parsed : Manifest.parse hostText "hosts.toml" = .ok hostManifest :=
  Manifest.parse_ofList (by decide +kernel) (by decide +kernel)

open ToEntity (holder) in
theorem exists_hostTable :
    ∃ table, (Mapping.ofManifest hostManifest).tables = .ok [table] ∧
      table.mappingEnabled = true ∧ table.IdentifiesInstances ∧
      table.columns.map (fun column => (holder column.parents, column.setter)) =
        [("entity", "setKey"), ("entity", "setIPS"), ("entity", "setIPS"), ("entity", "setKey"),
          ("site1", "setRow")] := by
  let site : Embedding := ⟨"site", "Site", "site1"⟩
  obtain ⟨columns, made, listed⟩ := exists_ok_and
    (show ((Mapping.ofManifest hostManifest).columnsOf hostClass
          { name := some "hosts", inheritance := true }).toOption.any
        (fun columns =>
          columns.map (fun column => (column.name, column.parents, column.setter)) ==
            [("host", [], "setKey"), ("i_ps", [], "setIPS"), ("ips", [], "setIPS"),
              ("key", [], "setKey"), ("site_row", [site], "setRow")]) = true by
      decide +kernel)
  have shown := beq_iff_eq.mp listed
  have names : columns.map (·.name) = ["host", "i_ps", "ips", "key", "site_row"] := by
    simpa [Function.comp_def] using congrArg (List.map Prod.fst) shown
  have parents : columns.map (·.parents) = [[], [], [], [], [site]] := by
    simpa [Function.comp_def] using congrArg (List.map (·.2.1)) shown
  have setters := congrArg (List.map fun entry => (holder entry.2.1, entry.2.2)) shown
  rw [List.map_map] at setters
  have ascending : columns.Pairwise fun a b => a.name ≤ b.name :=
    List.pairwise_map.mp (names ▸ by decide +kernel)
  obtain ⟨table, built, rfl, enabled⟩ :=
    Mapping.tables_of_columnsOf rfl rfl (by decide) made ascending
  exact ⟨table, built, enabled,
    Table.identifiesInstances_of_parents parents (by decide) (by decide), setters⟩

open ToEntity (body setterCalls entityVariable) in
/-- What the host's method calls twice on one variable are setters of two of its fields. -/
theorem hostManifest_setters :
    ∃ table, (Mapping.ofManifest hostManifest).tables = .ok [table] ∧
      ∀ context owner setter, 1 < (setterCalls (body context table)).count (owner, setter) →
        ∃ first second, Java.setterName first = setter ∧ Java.setterName second = setter ∧
          (first ≠ second ∨ owner = entityVariable) := by
  obtain ⟨table, built, _, identified, _⟩ := exists_hostTable
  refine ⟨table, built, fun context owner setter twice => ?_⟩
  obtain ⟨_, _, _, _, _, _, repeated⟩ := repeated_setters hostText "hosts.toml" hostManifest [table]
    table context hostManifest_parsed built List.mem_cons_self identified
  obtain ⟨_, _, _, first, second, _, _, ofFirst, ofSecond, apart⟩ := repeated owner setter twice
  exact ⟨first, second, ofFirst, ofSecond, apart.imp And.right fun entity => entity.2.2.2⟩

open ToEntity (body setterCalls) in
/-- The host's method sets the two keys through one setter, and so the fields that differ in case. -/
theorem hostManifest_repeats_setters :
    Manifest.parse hostText "hosts.toml" = .ok hostManifest ∧
      ∃ table, (Mapping.ofManifest hostManifest).tables = .ok [table] ∧
        table.mappingEnabled = true ∧
        ∀ context, 1 < (setterCalls (body context table)).count ("entity", "setKey") ∧
          1 < (setterCalls (body context table)).count ("entity", "setIPS") := by
  obtain ⟨table, built, enabled, identified, setters⟩ := exists_hostTable
  refine ⟨hostManifest_parsed, table, built, enabled, fun context => ?_⟩
  have called (call : String × String) := ToEntity.count_stores_le rfl
    (ToEntity.groups_of_identified identified).grouped context call
  rw [setters] at called
  exact ⟨Nat.lt_of_lt_of_le (by decide) (called _), Nat.lt_of_lt_of_le (by decide) (called _)⟩

end EntityMapper
