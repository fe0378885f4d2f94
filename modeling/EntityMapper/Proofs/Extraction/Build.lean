import EntityMapper.Extraction.Table
import EntityMapper.Proofs.Outcome
import EntityMapper.Proofs.Walk.Leaves

/-!
# What a successful build has done

One statement for each step of a table build, from a single column up to the table: when the step
succeeds, which parts succeeded and what it made of them.
-/
namespace EntityMapper

/-- The column is that of the leaf path. -/
structure Column.Stores (column : Column) (leaf : LeafPath) : Prop where
  field : column.fieldName = leaf.field.name
  parents : column.parents.map (fun parent => (parent.fieldName, parent.typeName)) =
    leaf.around.map fun field => (field.name, field.type)
  embedded : column.isEmbedded = true ↔ 1 < leaf.names.length

namespace ColumnFrame

/-- The strategy that names a column: the one its options ask for, else the table's. -/
def strategyFor (frame : ColumnFrame) (options : ColumnOptions) :
    Except MappingError NamingStrategy :=
  match options.strategy with
  | some name => frame.mapping.strategies.make name
  | none => .ok frame.strategy

/-- A column takes its strategy, its converter and its SQL type in turn. -/
theorem build_eq (frame : ColumnFrame) (path : FieldPath) (overrides : Option ColumnOptions) :
    frame.build path overrides = (do
      let strategy ← frame.strategyFor (optionsFor path.field overrides)
      let converter ← frame.mapping.converters.resolve frame.mapping.metadata
        (optionsFor path.field overrides).converter (frame.mapping.fieldType path.field.type)
      let sql ← frame.sqlType (optionsFor path.field overrides).sqlType converter
        (frame.mapping.fieldType path.field.type)
      return {
        table := frame.table
        name := columnName strategy path overrides
        fieldName := path.field.name
        dataType := ⟨frame.schema, frame.mapping.fieldType path.field.type, sql, frame.dialect,
          converter⟩
        parents := path.site.parents }) := by
  cases asked : (optionsFor path.field overrides).strategy <;> simp only [build, strategyFor, asked]

theorem build_eq_ok {frame : ColumnFrame} {path : FieldPath} {overrides : Option ColumnOptions}
    {column : Column} :
    frame.build path overrides = .ok column ↔
      ∃ strategy converter sql,
        frame.strategyFor (optionsFor path.field overrides) = .ok strategy ∧
        frame.mapping.converters.resolve frame.mapping.metadata
          (optionsFor path.field overrides).converter (frame.mapping.fieldType path.field.type) =
            .ok converter ∧
        frame.sqlType (optionsFor path.field overrides).sqlType converter
          (frame.mapping.fieldType path.field.type) = .ok sql ∧
        column = {
          table := frame.table
          name := columnName strategy path overrides
          fieldName := path.field.name
          dataType := ⟨frame.schema, frame.mapping.fieldType path.field.type, sql, frame.dialect,
            converter⟩
          parents := path.site.parents } := by
  simp only [build_eq, bind_eq_ok, pure_eq_ok, exists_and_left, eq_comm (b := column)]

/-- A kept leaf and the column built from it. -/
def BuildsLeaf (frame : ColumnFrame) (walkFrame : Frame) (leaf : LeafPath) (column : Column) :
    Prop :=
  ∃ path : FieldPath, Visit.ShowsLeaf walkFrame leaf (.leaf path (walkFrame.overridesFor leaf)) ∧
    frame.build path (walkFrame.overridesFor leaf) = .ok column

/-- A column built from a leaf stores it. -/
theorem BuildsLeaf.stores {frame : ColumnFrame} {level root : ClassDeclaration}
    {leaf : LeafPath} {column : Column}
    (builds : frame.BuildsLeaf (levelFrame level root) leaf column) : column.Stores leaf := by
  obtain ⟨path, ⟨parents, visited, typed⟩, built⟩ := builds
  obtain ⟨_, _, _, _, _, _, rfl⟩ := build_eq_ok.mp built
  cases visited
  refine ⟨rfl, typed, ?_⟩
  have counted := congrArg List.length typed
  simp only [List.length_map] at counted
  simp only [Column.isEmbedded, levelFrame, List.nil_append, LeafPath.names, List.length_append,
    List.length_map, List.length_singleton]
  cases parents with
  | nil => simp_all
  | cons parent rest =>
    simp only [List.length_cons] at counted
    simp
    omega

/-- Whether a leaf path becomes a column. -/
def keepsLeaf (frame : ColumnFrame) (walkFrame : Frame) (leaf : LeafPath) : Bool :=
  frame.keeps leaf.field (walkFrame.overridesFor leaf)

/-- Columns come only from walks without fault. -/
theorem ofVisits_faultless {frame : ColumnFrame} {visits : List Visit} {columns : List Column}
    (built : frame.ofVisits visits = .ok columns) : ∀ visit ∈ visits, visit.isLeaf = true := by
  induction visits generalizing columns with
  | nil => simp
  | cons visit rest ih =>
    simp only [ofVisits, bind_eq_ok] at built
    obtain ⟨column, first, others, tail, _⟩ := built
    refine List.forall_mem_cons.mpr ⟨?_, ih tail⟩
    cases visit with
    | leaf path overrides => rfl
    | unknownClass name referencedBy => cases first
    | cycle className path => cases first

/-- The kept leaves in order, each with its column. -/
theorem ofVisits_leaves {frame : ColumnFrame} {walkFrame : Frame} {leaves : List LeafPath}
    {visits : List Visit} {columns : List Column}
    (shown : List.Forall₂ (Visit.ShowsLeaf walkFrame) leaves visits)
    (built : frame.ofVisits visits = .ok columns) :
    List.Forall₂ (frame.BuildsLeaf walkFrame) (leaves.filter (frame.keepsLeaf walkFrame))
      columns := by
  induction shown generalizing columns with
  | nil =>
    cases built
    exact .nil
  | @cons leaf visit leaves visits shows _ ih =>
    simp only [ofVisits, bind_eq_ok, pure_eq_ok] at built
    obtain ⟨column, first, others, tail, rfl⟩ := built
    obtain ⟨parents, rfl, typed⟩ := shows
    change (if frame.keepsLeaf walkFrame leaf = true then _ else _) = _ at first
    by_cases kept : frame.keepsLeaf walkFrame leaf = true
    · rw [if_pos kept, bind_eq_ok] at first
      obtain ⟨single, made, same⟩ := first
      cases same
      rw [List.filter_cons_of_pos kept]
      exact .cons ⟨_, ⟨parents, rfl, typed⟩, made⟩ (ih tail)
    · rw [if_neg kept] at first
      cases first
      rw [List.filter_cons_of_neg kept]
      exact ih tail

/-- Every column is built from a visited leaf. -/
theorem mem_ofVisits {frame : ColumnFrame} {visits : List Visit} {columns : List Column}
    (built : frame.ofVisits visits = .ok columns) {column : Column} (member : column ∈ columns) :
    ∃ path overrides, .leaf path overrides ∈ visits ∧ frame.build path overrides = .ok column := by
  induction visits generalizing columns with
  | nil =>
    cases built
    cases member
  | cons visit rest ih =>
    simp only [ofVisits, bind_eq_ok, pure_eq_ok] at built
    obtain ⟨first, made, others, tail, rfl⟩ := built
    rcases List.mem_append.mp member with head | inOthers
    · cases visit with
      | leaf path overrides =>
        simp only [ofVisit] at made
        split at made
        · obtain ⟨single, built, same⟩ := bind_eq_ok.mp made
          cases same
          cases List.mem_singleton.mp head
          exact ⟨path, overrides, List.mem_cons_self, built⟩
        · cases made
          cases head
      | unknownClass name referencedBy => cases made
      | cycle className path => cases made
    · obtain ⟨path, overrides, visited, built⟩ := ih tail inOthers
      exact ⟨path, overrides, List.mem_cons_of_mem _ visited, built⟩

theorem firstRepeat_eq_none {seen names : List String} (none : firstRepeat seen names = none) :
    names.Nodup ∧ ∀ name ∈ names, name ∉ seen := by
  induction names generalizing seen with
  | nil => simp
  | cons name rest ih =>
    simp only [firstRepeat] at none
    split at none
    · cases none
    · rename_i fresh
      obtain ⟨distinct, unseen⟩ := ih none
      refine ⟨List.nodup_cons.mpr ⟨fun member => ?_, distinct⟩,
        List.forall_mem_cons.mpr ⟨fresh, fun other member => ?_⟩⟩
      · exact unseen name member List.mem_cons_self
      · exact fun old => unseen other member (List.mem_cons_of_mem _ old)

/-- The columns of a level differ in name. -/
theorem ofLevel_eq_ok {frame : ColumnFrame} {visits : List Visit} {columns : List Column}
    (built : frame.ofLevel visits = .ok columns) :
    frame.ofVisits visits = .ok columns ∧ (columns.map (·.name)).Nodup := by
  simp only [ofLevel, bind_eq_ok] at built
  obtain ⟨level, made, checked⟩ := built
  split at checked
  · cases checked
  · rename_i unrepeated
    cases checked
    exact ⟨made, (firstRepeat_eq_none unrepeated).1⟩

/-- A single level shadows nothing. -/
theorem ofLevels_single (frame : ColumnFrame) (visits : List Visit) :
    frame.ofLevels [] [visits] = frame.ofLevel visits := by
  cases made : frame.ofLevel visits <;> simp [ofLevels, made, bind, Except.bind, pure, Except.pure]

/-- Every column of a table is one of a level. -/
theorem mem_ofLevels {frame : ColumnFrame} {levels : List (List Visit)}
    {before columns : List Column} (built : frame.ofLevels before levels = .ok columns)
    {column : Column} (member : column ∈ columns) :
    column ∈ before ∨
      ∃ visits ∈ levels, ∃ level, frame.ofLevel visits = .ok level ∧ column ∈ level := by
  induction levels generalizing before with
  | nil =>
    cases built
    exact .inl member
  | cons visits rest ih =>
    simp only [ofLevels, bind_eq_ok] at built
    obtain ⟨level, made, built⟩ := built
    rcases ih built with known | ⟨later, inRest, other, madeLater, inLater⟩
    · rcases List.mem_append.mp known with old | fresh
      · exact .inl old
      · exact .inr ⟨visits, List.mem_cons_self, level, made, List.mem_of_mem_filter fresh⟩
    · exact .inr ⟨later, List.mem_cons_of_mem _ inRest, other, madeLater, inLater⟩

end ColumnFrame

theorem walkLevels_single (metadata : Metadata) (root level : ClassDeclaration) (vars : Variables) :
    walkLevels metadata root [level] vars =
      [(walk metadata metadata.walkBudget (levelFrame level root) vars).1] := rfl

/-- Each level of a table is walked by the rules. -/
theorem walkLevels_walked {metadata : Metadata} {root : ClassDeclaration}
    {levels : List ClassDeclaration} {vars : Variables} {visits : List Visit}
    (member : visits ∈ walkLevels metadata root levels vars) :
    ∃ level ∈ levels, ∃ before after,
      Walked metadata (levelFrame level root) level.fields before visits after := by
  induction levels generalizing vars with
  | nil => cases member
  | cons level rest ih =>
    rcases List.mem_cons.mp member with head | tail
    · exact ⟨level, List.mem_cons_self, vars, _, head ▸ walk_level_walked metadata level root vars⟩
    · obtain ⟨higher, inRest, walked⟩ := ih tail
      exact ⟨higher, List.mem_cons_of_mem _ inRest, walked⟩

namespace Mapping

theorem fieldType_name (mapping : Mapping) (name : String) : (mapping.fieldType name).name = name := by
  rw [fieldType]
  split <;> rfl

/-- The dialect of the tables built in a scope. -/
def dialectIn (mapping : Mapping) (parent : Scope) : String :=
  (parent.get .dialect).getD mapping.dialect

/-- What the columns of a table share. -/
def columnFrame (mapping : Mapping) (parent : Scope) (table : TableScope) : ColumnFrame where
  mapping := mapping
  table := table.name
  schema := table.schema.name
  dialect := mapping.dialectIn parent
  strategy := table.strategy

theorem tableScope_dialect {mapping : Mapping} {decl : ClassDeclaration} {options : TableOptions}
    {parent : Scope} {table : TableScope}
    (placed : mapping.tableScope decl options parent = .ok table) :
    table.scope.get .dialect = parent.get .dialect := by
  simp only [tableScope, bind_eq_ok, pure_eq_ok] at placed
  obtain ⟨schema, _, strategy, _, rfl⟩ := placed
  simp [Scope.get_set_of_ne]

theorem tableScope_strategy {mapping : Mapping} {decl : ClassDeclaration} {options : TableOptions}
    {parent : Scope} {table : TableScope}
    (placed : mapping.tableScope decl options parent = .ok table) :
    mapping.strategyIn parent options.strategy = .ok table.strategy := by
  simp only [tableScope, bind_eq_ok, pure_eq_ok] at placed
  obtain ⟨schema, _, strategy, named, rfl⟩ := placed
  exact named

/-- A table is the columns of its levels, built in the frame that its scope gives. -/
theorem buildIn_eq (mapping : Mapping) (decl : ClassDeclaration) (options : TableOptions)
    (parent : Scope) :
    mapping.buildIn decl options parent = (do
      let placed ← mapping.tableScope decl options parent
      let columns ← (mapping.columnFrame parent placed).ofLevels []
        (walkLevels mapping.metadata decl
          (lineage mapping.metadata decl options.inheritance) {})
      return Table.ofColumns placed.schema placed.name decl.name options.mapping columns) := by
  unfold buildIn
  cases found : mapping.tableScope decl options parent with
  | error cause => rfl
  | ok placed =>
    simp only [bind, Except.bind, tableScope_dialect found]
    rfl

theorem buildIn_eq_ok {mapping : Mapping} {decl : ClassDeclaration} {options : TableOptions}
    {parent : Scope} {table : Table} :
    mapping.buildIn decl options parent = .ok table ↔
      ∃ placed columns, mapping.tableScope decl options parent = .ok placed ∧
        (mapping.columnFrame parent placed).ofLevels []
          (walkLevels mapping.metadata decl
            (lineage mapping.metadata decl options.inheritance) {}) = .ok columns ∧
        table = Table.ofColumns placed.schema placed.name decl.name options.mapping columns := by
  simp only [buildIn_eq, bind_eq_ok, pure_eq_ok, exists_and_left, eq_comm (b := table)]

/-- Every column of a table is built from a leaf path of one of its levels. -/
theorem buildIn_buildsLeaf {mapping : Mapping} {decl : ClassDeclaration} {options : TableOptions}
    {parent : Scope} {table : Table} (built : mapping.buildIn decl options parent = .ok table) :
    ∃ placed, mapping.tableScope decl options parent = .ok placed ∧ table.name = placed.name ∧
      ∀ column ∈ table.columns, ∃ level ∈ lineage mapping.metadata decl options.inheritance,
        ∃ leaf, LeadsTo mapping.metadata level.fields leaf ∧
          (mapping.columnFrame parent placed).BuildsLeaf (levelFrame level decl) leaf column := by
  obtain ⟨placed, columns, found, levels, rfl⟩ := buildIn_eq_ok.mp built
  refine ⟨placed, found, rfl, fun column member => ?_⟩
  have unsorted : column ∈ columns := (List.mergeSort_perm _ _).mem_iff.mp member
  rcases ColumnFrame.mem_ofLevels levels unsorted with none | ⟨visits, inLevels, own, made, inOwn⟩
  · cases none
  · obtain ⟨level, inLineage, before, after, walked⟩ := walkLevels_walked inLevels
    obtain ⟨visited, _⟩ := ColumnFrame.ofLevel_eq_ok made
    obtain ⟨leaves, reached, shown, _⟩ := walked.leaves (ColumnFrame.ofVisits_faultless visited)
    obtain ⟨leaf, kept, builds⟩ :=
      exists_of_forall₂ (ColumnFrame.ofVisits_leaves shown visited) inOwn
    exact ⟨level, inLineage, leaf, (reached leaf).mp (List.mem_of_mem_filter kept), builds⟩

/-- The columns of a table in the order of its levels. -/
def columnsIn (mapping : Mapping) (decl : ClassDeclaration) (options : TableOptions)
    (parent : Scope) : Except MappingError (List Column) := do
  let placed ← mapping.tableScope decl options parent
  (mapping.columnFrame parent placed).ofLevels []
    (walkLevels mapping.metadata decl (lineage mapping.metadata decl options.inheritance) {})

/-- A table is built where its columns are; columns that ascend keep their order. -/
theorem buildIn_of_columnsIn {mapping : Mapping} {decl : ClassDeclaration} {options : TableOptions}
    {parent : Scope} {columns : List Column}
    (made : mapping.columnsIn decl options parent = .ok columns)
    (ascending : columns.Pairwise fun a b => a.name ≤ b.name) :
    ∃ table, mapping.buildIn decl options parent = .ok table ∧ table.columns = columns ∧
      table.mappingEnabled = options.mapping := by
  obtain ⟨placed, found, levels⟩ := bind_eq_ok.mp made
  refine ⟨_, buildIn_eq_ok.mpr ⟨placed, columns, found, levels, rfl⟩, ?_, rfl⟩
  exact List.mergeSort_of_pairwise (by simpa [Table.nameLe] using ascending)

/-- A table is built whose columns pass a test that they pass level by level. -/
theorem exists_table_of_columnsIn {mapping : Mapping} {decl : ClassDeclaration}
    {options : TableOptions} {parent : Scope} {test : List Column → Bool}
    (passes : (mapping.columnsIn decl options parent).toOption.any (fun columns =>
      decide (columns.Pairwise fun a b => a.name ≤ b.name) && test columns) = true) :
    ∃ table, mapping.buildIn decl options parent = .ok table ∧ test table.columns = true := by
  obtain ⟨columns, made, passed⟩ := exists_ok_and passes
  obtain ⟨ascending, tested⟩ := Bool.and_eq_true_iff.mp passed
  obtain ⟨table, built, same, _⟩ := buildIn_of_columnsIn made (of_decide_eq_true ascending)
  exact ⟨table, built, same ▸ tested⟩

end Mapping

end EntityMapper
