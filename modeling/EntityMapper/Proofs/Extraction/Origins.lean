import EntityMapper.Proofs.Extraction.Union
import EntityMapper.Proofs.Walk.Names

/-!
# Where the columns of a table come from

Every column of a table is built from a leaf that the walk of one of its levels visits
(`buildIn_origins`). Where fields differ in name, level and field names tell columns apart
(`Origin.eq_of_names`).
-/
namespace EntityMapper

theorem WalkedLevels.length_eq {metadata : Metadata} {root : ClassDeclaration}
    {levels : List ClassDeclaration} {vars after : Variables} {visits : List (List Visit)}
    (walked : WalkedLevels metadata root levels vars visits after) :
    levels.length = visits.length := by
  induction walked with
  | done vars => rfl
  | level _ _ ih => rw [List.length_cons, List.length_cons, ih]

/-- The walks of a table's levels, which meet no fault. -/
structure TableWalk (mapping : Mapping) (decl : ClassDeclaration) (options : TableOptions)
    (parent : Scope) where
  placed : TableScope
  levels : List ClassDeclaration
  visits : List (List Visit)
  /-- The variables in the end. -/
  after : Variables
  found : mapping.tableScope decl options parent = .ok placed
  ruled : mapping.metadata.Levels decl options.inheritance levels
  walked : WalkedLevels mapping.metadata decl levels {} visits after
  faultless : ∀ seen ∈ visits, ∀ visit ∈ seen, visit.isLeaf = true

namespace TableWalk

variable {mapping : Mapping} {decl : ClassDeclaration} {options : TableOptions} {parent : Scope}

def frame (walk : TableWalk mapping decl options parent) : ColumnFrame :=
  mapping.columnFrame parent walk.placed

/-- The column is built from the leaf at a path, which the walk of a level visits. -/
def Origin (walk : TableWalk mapping decl options parent) (level : ClassDeclaration)
    (path : FieldPath) (column : Column) : Prop :=
  ∃ seen overrides, (level, seen) ∈ walk.levels.zip walk.visits ∧ .leaf path overrides ∈ seen ∧
    walk.frame.build path overrides = .ok column

theorem levels_nodup (walk : TableWalk mapping decl options parent) :
    (walk.levels.map (·.name)).Nodup := by
  have ruled := walk.ruled
  rw [Metadata.Levels] at ruled
  split at ruled
  · exact ruled.distinct
  · rw [ruled]
    exact List.nodup_singleton _

/-- A level has one walk. -/
theorem seen_unique (walk : TableWalk mapping decl options parent) {level : ClassDeclaration}
    {first second : List Visit} (pairedFirst : (level, first) ∈ walk.levels.zip walk.visits)
    (pairedSecond : (level, second) ∈ walk.levels.zip walk.visits) : first = second := by
  have once : ((walk.levels.zip walk.visits).map Prod.fst).Nodup := by
    rw [List.map_fst_zip (Nat.le_of_eq walk.walked.length_eq)]
    exact List.Nodup.of_map _ walk.levels_nodup
  exact congrArg Prod.snd (List.inj_on_of_nodup_map once pairedFirst pairedSecond rfl)

variable {walk : TableWalk mapping decl options parent} {level : ClassDeclaration}
  {path pathA pathB : FieldPath} {column a b : Column}

theorem Origin.parents (origin : walk.Origin level path column) :
    column.parents = path.site.parents := by
  obtain ⟨_, _, _, _, built⟩ := origin
  obtain ⟨_, _, _, _, _, _, rfl⟩ := ColumnFrame.build_eq_ok.mp built
  rfl

theorem Origin.parents_names (origin : walk.Origin level path column) :
    column.parents.map (·.fieldName) = path.site.path := by
  rw [origin.parents]
  obtain ⟨seen, overrides, paired, visited, built⟩ := origin
  obtain ⟨_, _, walked⟩ := walk.walked.walked paired
  exact walked.parents_names (walk.faultless seen (List.of_mem_zip paired).2) visited

/-- The names on the way of a column are those of its leaf. -/
theorem Origin.names (origin : walk.Origin level path column) : column.path = path.names := by
  rw [Column.path, origin.parents_names]
  obtain ⟨_, _, _, _, built⟩ := origin
  obtain ⟨_, _, _, _, _, _, rfl⟩ := ColumnFrame.build_eq_ok.mp built
  rfl

theorem Origin.level_mem (origin : walk.Origin level path column)
    (declared : decl ∈ mapping.metadata.classes) : level ∈ mapping.metadata.classes := by
  obtain ⟨_, _, paired, _⟩ := origin
  have member := (List.of_mem_zip paired).1
  rw [walk.ruled.eq_lineage] at member
  exact mem_lineage declared member

/-- Columns are of two levels only in a table with inheritance. -/
theorem Origin.inheritance {levelA levelB : ClassDeclaration} (originA : walk.Origin levelA pathA a)
    (originB : walk.Origin levelB pathB b) (differ : levelA ≠ levelB) :
    options.inheritance = true := by
  obtain ⟨_, _, pairedA, _⟩ := originA
  obtain ⟨_, _, pairedB, _⟩ := originB
  have levelsA := (List.of_mem_zip pairedA).1
  have levelsB := (List.of_mem_zip pairedB).1
  have ruled := walk.ruled
  rw [Metadata.Levels] at ruled
  split at ruled
  · assumption
  · rw [ruled, List.mem_singleton] at levelsA levelsB
    exact absurd (levelsA.trans levelsB.symm) differ

section Names

variable (classes : mapping.metadata.DistinctFields) (declared : decl ∈ mapping.metadata.classes)
  (originA : walk.Origin level pathA a) (originB : walk.Origin level pathB b)

include classes declared originA originB

/-- Columns of one level with the same names on their way are one column. -/
theorem Origin.eq_of_names (same : a.path = b.path) : a = b := by
  have names := classes level (originA.level_mem declared)
  rw [originA.names, originB.names] at same
  obtain ⟨seen, overridesA, paired, visitedA, builtA⟩ := originA
  obtain ⟨_, overridesB, pairedB, visitedB, builtB⟩ := originB
  cases walk.seen_unique paired pairedB
  obtain ⟨_, _, walked⟩ := walk.walked.walked paired
  have faultless := walk.faultless seen (List.of_mem_zip paired).2
  obtain ⟨rfl, rfl⟩ := walked.eq_of_names faultless classes names visitedA visitedB same
  exact Except.ok.inj (builtA.symm.trans builtB)

/-- No column of a level lies on the way of another. -/
theorem Origin.path_eq_of_begins (begins : a.path <+: b.path) : a.path = b.path := by
  have names := classes level (originA.level_mem declared)
  rw [originA.names, originB.names] at begins ⊢
  obtain ⟨seen, overridesA, paired, visitedA, _⟩ := originA
  obtain ⟨_, overridesB, pairedB, visitedB, _⟩ := originB
  cases walk.seen_unique paired pairedB
  obtain ⟨_, _, walked⟩ := walk.walked.walked paired
  have faultless := walk.faultless seen (List.of_mem_zip paired).2
  exact walked.names_eq_of_begins faultless classes names visitedA visitedB begins

/-- Columns of one level share the embedded fields, variables included, as far as the names on their
ways agree. -/
theorem Origin.take_parents {way : List String} (ofA : way <+: a.parents.map (·.fieldName))
    (ofB : way <+: b.parents.map (·.fieldName)) :
    a.parents.take way.length = b.parents.take way.length := by
  have names := classes level (originA.level_mem declared)
  rw [originA.parents_names] at ofA
  rw [originB.parents_names] at ofB
  rw [originA.parents, originB.parents]
  obtain ⟨seen, overridesA, paired, visitedA, _⟩ := originA
  obtain ⟨_, overridesB, pairedB, visitedB, _⟩ := originB
  cases walk.seen_unique paired pairedB
  obtain ⟨_, _, walked⟩ := walk.walked.walked paired
  exact walked.shareWay classes names rfl visitedA visitedB way ofA ofB

end Names

end TableWalk

/-- The levels of a built table have been walked without fault, and each column is built from one of
the leaves. -/
theorem Mapping.buildIn_origins {mapping : Mapping} {decl : ClassDeclaration}
    {options : TableOptions} {parent : Scope} {table : Table}
    (built : mapping.buildIn decl options parent = .ok table) :
    ∃ walk : TableWalk mapping decl options parent,
      ∀ column ∈ table.columns, ∃ level path, walk.Origin level path column := by
  obtain ⟨placed, columns, found, levels, rfl⟩ := buildIn_eq_ok.mp built
  obtain ⟨after, walked⟩ := walkLevels_run mapping.metadata decl
    (lineage mapping.metadata decl options.inheritance) {}
  have faultless : ∀ seen ∈ walkLevels mapping.metadata decl
      (lineage mapping.metadata decl options.inheritance) {}, ∀ visit ∈ seen,
        visit.isLeaf = true := by
    intro seen member
    obtain ⟨own, made, _⟩ := ColumnFrame.ofLevels_eq_ok.mp levels
    obtain ⟨level, _, single⟩ := exists_of_forall₂ made.flip member
    exact ColumnFrame.ofVisits_faultless (ColumnFrame.ofLevel_eq_ok single).1
  refine ⟨⟨placed, _, _, after, found,
    lineage_levels mapping.metadata decl options.inheritance, walked, faultless⟩,
    fun column member => ?_⟩
  rcases ColumnFrame.mem_ofLevels levels (Table.mem_ofColumns.mp member) with none |
    ⟨seen, inVisits, level, made, inLevel⟩
  · cases none
  · obtain ⟨path, overrides, visited, single⟩ :=
      ColumnFrame.mem_ofVisits (ColumnFrame.ofLevel_eq_ok made).1 inLevel
    rw [← List.map_snd_zip (Nat.le_of_eq walked.length_eq.symm)] at inVisits
    obtain ⟨⟨origin, seen⟩, paired, rfl⟩ := List.mem_map.mp inVisits
    exact ⟨origin, path, seen, overrides, paired, visited, single⟩

end EntityMapper
