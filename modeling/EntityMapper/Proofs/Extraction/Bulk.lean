import EntityMapper.Proofs.Extraction.Build

/-!
# All tables of a mapping

The build of all tables succeeds when that of every buildable class does, and otherwise fails as
the first class does that fails. What it succeeds with is what the lookups by class name find:
one table (`table?_eq`), and the scope a table was built in (`tableScope?_eq`).
-/
namespace EntityMapper

/-- Where names differ, a declared class is the one found under its name. -/
theorem Metadata.class?_of_mem {metadata : Metadata}
    (distinct : (metadata.classes.map (·.name)).Nodup) {decl : ClassDeclaration}
    (member : decl ∈ metadata.classes) : metadata.class? decl.name = some decl := by
  obtain ⟨found, inClasses, same, first⟩ : ∃ found ∈ metadata.classes, found.name = decl.name ∧
      metadata.class? decl.name = some found := by
    cases looked : metadata.class? decl.name with
    | none =>
      have absent := List.find?_eq_none.mp looked decl member
      simp at absent
    | some found =>
      exact ⟨found, List.mem_of_find?_eq_some looked, by simpa using List.find?_some looked, rfl⟩
  rw [first, List.inj_on_of_nodup_map distinct inClasses member same]

namespace Mapping

/-- How the build of a class ends, if the class is buildable. -/
def outcome? (mapping : Mapping) (base : Scope) (decl : ClassDeclaration) :
    Option (Except MappingError Table) :=
  decl.buildable?.map fun options => mapping.buildIn decl options base

theorem outcome?_eq_some {mapping : Mapping} {base : Scope} {decl : ClassDeclaration}
    {outcome : Except MappingError Table} :
    mapping.outcome? base decl = some outcome ↔
      ∃ options, decl.buildable? = some options ∧ mapping.buildIn decl options base = outcome := by
  simp [outcome?]

theorem buildIn_className {mapping : Mapping} {decl : ClassDeclaration} {options : TableOptions}
    {base : Scope} {table : Table} (built : mapping.buildIn decl options base = .ok table) :
    table.className = decl.name := by
  obtain ⟨placed, columns, _, _, rfl⟩ := buildIn_eq_ok.mp built
  rfl

/-- The class adds its table in front, if it is buildable. -/
theorem tablesIn_cons_eq_ok {mapping : Mapping} {base : Scope} {decl : ClassDeclaration}
    {rest : List ClassDeclaration} {tables : List Table} :
    mapping.tablesIn base (decl :: rest) = .ok tables ↔
      (mapping.outcome? base decl = none ∧ mapping.tablesIn base rest = .ok tables) ∨
      ∃ table others, mapping.outcome? base decl = some (.ok table) ∧
        mapping.tablesIn base rest = .ok others ∧ tables = table :: others := by
  rw [tablesIn, outcome?]
  cases decl.buildable? with
  | none => simp
  | some options =>
    simp only [bind_eq_ok, pure_eq_ok, Option.map_some, Option.some.injEq, reduceCtorEq, false_and,
      false_or, exists_and_left, eq_comm (b := tables)]

/-- The class decides how the build fails, unless its own table is built. -/
theorem tablesIn_cons_eq_error {mapping : Mapping} {base : Scope} {decl : ClassDeclaration}
    {rest : List ClassDeclaration} {cause : MappingError}
    (failed : mapping.tablesIn base (decl :: rest) = .error cause) :
    mapping.outcome? base decl = some (.error cause) ∨
      mapping.tablesIn base rest = .error cause ∧
        ∀ other, mapping.outcome? base decl ≠ some (.error other) := by
  rw [tablesIn] at failed
  rw [outcome?]
  cases buildable : decl.buildable? with
  | none =>
    rw [buildable] at failed
    exact .inr ⟨failed, by simp⟩
  | some options =>
    rw [buildable] at failed
    rcases bind_eq_error.mp failed with own | ⟨table, made, failed⟩
    · exact .inl (by rw [Option.map_some, own])
    · rcases bind_eq_error.mp failed with later | ⟨_, _, built⟩
      · exact .inr ⟨later, by simp [made]⟩
      · cases built

/-- All tables are built when every outcome is a table. -/
theorem tablesIn_eq_ok {mapping : Mapping} {base : Scope} {classes : List ClassDeclaration}
    {tables : List Table} (built : mapping.tablesIn base classes = .ok tables) :
    classes.filterMap (mapping.outcome? base) = tables.map .ok := by
  induction classes generalizing tables with
  | nil =>
    cases built
    rfl
  | cons decl rest ih =>
    rcases tablesIn_cons_eq_ok.mp built with ⟨skipped, tail⟩ | ⟨table, others, made, tail, rfl⟩
    · rw [List.filterMap_cons_none skipped, ih tail]
    · rw [List.filterMap_cons_some made, ih tail, List.map_cons]

/-- The first class that fails decides how the build of all tables fails. -/
theorem tablesIn_eq_error {mapping : Mapping} {base : Scope} {classes : List ClassDeclaration}
    {cause : MappingError} (failed : mapping.tablesIn base classes = .error cause) :
    ∃ before decl after, classes = before ++ decl :: after ∧
      mapping.outcome? base decl = some (.error cause) ∧
      ∀ earlier ∈ before, ∀ other, mapping.outcome? base earlier ≠ some (.error other) := by
  induction classes with
  | nil => cases failed
  | cons decl rest ih =>
    rcases tablesIn_cons_eq_error failed with own | ⟨later, succeeds⟩
    · exact ⟨[], decl, rest, rfl, own, by simp⟩
    · obtain ⟨before, first, after, rfl, fails, others⟩ := ih later
      exact ⟨decl :: before, first, after, rfl, fails, List.forall_mem_cons.mpr ⟨succeeds, others⟩⟩

/-- Each of the tables is that of a class. -/
theorem exists_of_mem_tables {mapping : Mapping} {base : Scope} {classes : List ClassDeclaration}
    {tables : List Table} (built : mapping.tablesIn base classes = .ok tables) {table : Table}
    (member : table ∈ tables) :
    ∃ decl ∈ classes, ∃ options, decl.buildable? = some options ∧
      mapping.buildIn decl options base = .ok table := by
  have inOutcomes : Except.ok table ∈ classes.filterMap (mapping.outcome? base) := by
    rw [tablesIn_eq_ok built]
    exact List.mem_map_of_mem member
  obtain ⟨decl, inClasses, outcome⟩ := List.mem_filterMap.mp inOutcomes
  exact ⟨decl, inClasses, outcome?_eq_some.mp outcome⟩

/-- The tables are of classes in their order, each of another one. -/
theorem classNames_sublist {mapping : Mapping} {base : Scope} {classes : List ClassDeclaration}
    {tables : List Table} (built : mapping.tablesIn base classes = .ok tables) :
    (tables.map (·.className)).Sublist (classes.map (·.name)) := by
  induction classes generalizing tables with
  | nil =>
    cases built
    exact .slnil
  | cons decl rest ih =>
    rcases tablesIn_cons_eq_ok.mp built with ⟨_, tail⟩ | ⟨table, others, made, tail, rfl⟩
    · exact (ih tail).cons _
    · obtain ⟨options, _, made⟩ := outcome?_eq_some.mp made
      rw [List.map_cons, List.map_cons, buildIn_className made]
      exact (ih tail).cons_cons _

theorem tables_of_base {mapping : Mapping} {base : Scope} (based : mapping.baseScope = .ok base) :
    mapping.tables = mapping.tablesIn base mapping.metadata.classes := by
  rw [tables, based]
  rfl

theorem tablesIn_of_unbuildable {mapping : Mapping} {base : Scope} {classes : List ClassDeclaration}
    (unbuildable : ∀ decl ∈ classes, decl.buildable? = none) :
    mapping.tablesIn base classes = .ok [] := by
  induction classes with
  | nil => rfl
  | cons decl rest ih =>
    obtain ⟨first, others⟩ := List.forall_mem_cons.mp unbuildable
    exact tablesIn_cons_eq_ok.mpr (.inl ⟨by rw [outcome?, first, Option.map_none], ih others⟩)

/-- The columns of a class, level by level, whose table is placed right below the base scope. -/
def columnsOf (mapping : Mapping) (decl : ClassDeclaration) (options : TableOptions) :
    Except MappingError (List Column) := do
  mapping.columnsIn decl options (← mapping.baseScope)

/-- The first class has the only table when no other is buildable. Its columns keep their order if
they ascend. -/
theorem tables_of_columnsOf {mapping : Mapping} {decl : ClassDeclaration}
    {rest : List ClassDeclaration} {options : TableOptions} {columns : List Column}
    (classes : mapping.metadata.classes = decl :: rest) (buildable : decl.buildable? = some options)
    (unbuildable : ∀ other ∈ rest, other.buildable? = none)
    (made : mapping.columnsOf decl options = .ok columns)
    (ascending : columns.Pairwise fun a b => a.name ≤ b.name) :
    ∃ table, mapping.tables = .ok [table] ∧ table.columns = columns ∧
      table.mappingEnabled = options.mapping := by
  obtain ⟨base, based, made⟩ := bind_eq_ok.mp made
  obtain ⟨table, built, same⟩ := buildIn_of_columnsIn made ascending
  refine ⟨table, ?_, same⟩
  rw [tables_of_base based, classes, tablesIn_cons_eq_ok]
  exact .inr ⟨table, [], outcome?_eq_some.mpr ⟨options, buildable, built⟩,
    tablesIn_of_unbuildable unbuildable, rfl⟩

/-- The schema of a table is the one that its class has on its own. -/
theorem schemaOf_of_buildIn {mapping : Mapping} {decl : ClassDeclaration} {options : TableOptions}
    {base : Scope} {table : Table} (built : mapping.buildIn decl options base = .ok table) :
    mapping.schemaOf decl base = .ok table.schema := by
  obtain ⟨placed, columns, found, _, rfl⟩ := buildIn_eq_ok.mp built
  simp only [tableScope, bind_eq_ok, pure_eq_ok] at found
  obtain ⟨schema, resolved, strategy, _, rfl⟩ := found
  exact resolved

/-- Where the tables can be built, the schemas of all classes are those of the tables. -/
theorem schemasIn_of_tablesIn {mapping : Mapping} {base : Scope} {classes : List ClassDeclaration}
    {tables : List Table} (built : mapping.tablesIn base classes = .ok tables) :
    mapping.schemasIn base classes = .ok (tables.map (·.schema)) := by
  induction classes generalizing tables with
  | nil =>
    cases built
    rfl
  | cons decl rest ih =>
    rw [schemasIn]
    rcases tablesIn_cons_eq_ok.mp built with ⟨skipped, tail⟩ | ⟨table, others, made, tail, rfl⟩
    · rw [Option.map_eq_none_iff.mp skipped]
      exact ih tail
    · obtain ⟨options, buildable, made⟩ := outcome?_eq_some.mp made
      rw [buildable]
      exact bind_eq_ok.mpr ⟨table.schema, schemaOf_of_buildIn made,
        bind_eq_ok.mpr ⟨others.map (·.schema), ih tail, rfl⟩⟩

/-- The class of a name decides whether there is a table for it. -/
theorem find?_tables {mapping : Mapping} {base : Scope} {classes : List ClassDeclaration}
    {tables : List Table} (built : mapping.tablesIn base classes = .ok tables)
    (distinct : (classes.map (·.name)).Nodup) (className : String) :
    (tables.find? (·.className == className)).map .ok =
      (classes.find? (·.name == className)).bind (mapping.outcome? base) := by
  induction classes generalizing tables with
  | nil =>
    cases built
    rfl
  | cons decl rest ih =>
    obtain ⟨fresh, others⟩ := List.nodup_cons.mp distinct
    rcases tablesIn_cons_eq_ok.mp built with ⟨skipped, tail⟩ | ⟨table, later, made, tail, rfl⟩
    · by_cases same : decl.name = className
      · have absent : tables.find? (·.className == className) = none := by
          refine List.find?_eq_none.mpr fun table member => ?_
          obtain ⟨other, inRest, options, _, made⟩ := exists_of_mem_tables tail member
          rw [buildIn_className made, beq_iff_eq, ← same]
          exact fun equal => fresh (List.mem_map.mpr ⟨other, inRest, equal⟩)
        rw [List.find?_cons_of_pos (by simpa using same), Option.bind_some, skipped, absent]
        rfl
      · rw [List.find?_cons_of_neg (by simpa using same)]
        exact ih tail others
    · obtain ⟨options, _, named⟩ := outcome?_eq_some.mp made
      by_cases same : decl.name = className
      · rw [List.find?_cons_of_pos (by simp [buildIn_className named, same]),
          List.find?_cons_of_pos (by simpa using same), Option.bind_some, made]
        rfl
      · rw [List.find?_cons_of_neg (by simp [buildIn_className named, same]),
          List.find?_cons_of_neg (by simpa using same)]
        exact ih tail others

/-- The table of a class alone is the one among all tables. -/
theorem table?_eq {mapping : Mapping} {tables : List Table} (built : mapping.tables = .ok tables)
    (distinct : (mapping.metadata.classes.map (·.name)).Nodup) (className : String) :
    mapping.table? className = .ok (tables.find? (·.className == className)) := by
  obtain ⟨base, based, built⟩ := bind_eq_ok.mp built
  have found := find?_tables built distinct className
  rw [table?, buildableClass?]
  change _ = (mapping.metadata.class? className).bind _ at found
  cases looked : mapping.metadata.class? className with
  | none =>
    rw [looked, Option.bind_none, Option.map_eq_none_iff] at found
    rw [found]
    rfl
  | some decl =>
    rw [looked, Option.bind_some, outcome?] at found
    cases buildable : decl.buildable? with
    | none =>
      rw [buildable, Option.map_none, Option.map_eq_none_iff] at found
      simp [buildable, found, bind, pure, Except.pure]
    | some options =>
      rw [buildable, Option.map_some, Option.map_eq_some_iff] at found
      obtain ⟨table, selected, made⟩ := found
      simp [buildable, based, selected, ← made, bind, Except.bind, pure, Except.pure]

/-- The scope a table was built in is found under its class. -/
theorem tableScope?_eq {mapping : Mapping} {base : Scope} (based : mapping.baseScope = .ok base)
    (distinct : (mapping.metadata.classes.map (·.name)).Nodup) {decl : ClassDeclaration}
    (member : decl ∈ mapping.metadata.classes) {options : TableOptions}
    (buildable : decl.buildable? = some options) {placed : TableScope}
    (found : mapping.tableScope decl options base = .ok placed) :
    mapping.tableScope? decl.name = .ok (some placed.scope) := by
  rw [tableScope?, Metadata.class?_of_mem distinct member]
  simp [based, buildable, found, bind, Except.bind, pure, Except.pure]

/-- The scope of a table holds its strategy. -/
theorem scope_strategy {mapping : Mapping} {decl : ClassDeclaration} {options : TableOptions}
    {parent : Scope} {placed : TableScope}
    (found : mapping.tableScope decl options parent = .ok placed) :
    placed.scope.get .strategy = some placed.strategy := by
  simp only [tableScope, bind_eq_ok, pure_eq_ok] at found
  obtain ⟨schema, _, strategy, _, rfl⟩ := found
  simp [Scope.get_set_of_ne]

end Mapping

end EntityMapper
