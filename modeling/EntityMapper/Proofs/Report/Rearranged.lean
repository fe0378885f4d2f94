import EntityMapper.Proofs.Extraction.Columns
import EntityMapper.Proofs.Extraction.Rearranged
import EntityMapper.Proofs.Mapper.Instances
import EntityMapper.Report.Generate

/-!
# The order of declarations

A table build reads the fields of classes in the order they are declared. Were they declared in
another order, it would succeed just as well and build the same table, except that the variables of
embedded fields may have other numbers (`declaration_order_irrelevant`). Without embedded fields
there are no such variables, and tables and mapper files are the same.
-/
namespace EntityMapper

/-- The variables of the column's embedded fields are the base names of their types with numbers. -/
def Column.Numbered (column : Column) : Prop :=
  ∀ field ∈ column.parents,
    ∃ number, field.varName = Variables.named (Variables.base field.typeName, number)

/-- The columns of a built table are numbered. -/
theorem Mapping.buildIn_numbered {mapping : Mapping} {decl : ClassDeclaration}
    {options : TableOptions} {parent : Scope} {table : Table}
    (built : mapping.buildIn decl options parent = .ok table) :
    ∀ column ∈ table.columns, column.Numbered := by
  intro column member field inParents
  obtain ⟨walk, origins⟩ := buildIn_origins built
  obtain ⟨entered, handed, reached⟩ := walk.enters
  obtain ⟨level, path, origin⟩ := origins column member
  obtain ⟨outer, below, split⟩ := List.append_of_mem inParents
  have within : (Instance.mk outer field).chain <+: column.parents :=
    ⟨below, by simp [Instance.chain, split]⟩
  exact handed.exists_number (List.mem_map_of_mem (f := (·.2.field))
    (reached level path column origin ⟨outer, field⟩ within))

/-- Embedded fields that differ in the numbers of their variables only. -/
structure Embedding.Renumbered (field other : Embedding) : Prop where
  fieldName : other.fieldName = field.fieldName
  typeName : other.typeName = field.typeName
  numbers : ∃ first second,
    field.varName = Variables.named (Variables.base field.typeName, first) ∧
      other.varName = Variables.named (Variables.base field.typeName, second)

/-- Columns that differ in the numbers of variables only. -/
structure Column.Renumbered (column other : Column) : Prop where
  parents : List.Forall₂ Embedding.Renumbered column.parents other.parents
  rest : other = { column with parents := other.parents }

/-- Tables of the same columns in the same order but for the numbers of variables. -/
structure Table.Renumbered (table other : Table) : Prop where
  schema : other.schema = table.schema
  name : other.name = table.name
  className : other.className = table.className
  mappingEnabled : other.mappingEnabled = table.mappingEnabled
  columns : List.Forall₂ Column.Renumbered table.columns other.columns

/-- Lists with the same images are related where members with the same image are. -/
theorem forall₂_of_map_eq {α β : Type} {related : α → α → Prop} {f : α → β} {first second : List α}
    (same : first.map f = second.map f)
    (alike : ∀ a ∈ first, ∀ b ∈ second, f a = f b → related a b) :
    List.Forall₂ related first second := by
  induction first generalizing second with
  | nil =>
    cases List.map_eq_nil_iff.mp same.symm
    exact .nil
  | cons a rest ih =>
    cases second with
    | nil => cases same
    | cons b others =>
      obtain ⟨heads, tails⟩ := List.cons.inj same
      refine .cons (alike a List.mem_cons_self b List.mem_cons_self heads) (ih tails ?_)
      intro c inRest d inOthers
      exact alike c (List.mem_cons_of_mem _ inRest) d (List.mem_cons_of_mem _ inOthers)

theorem Column.renumbered {column other : Column} (same : column.unnumbered = other.unnumbered)
    (numbered : column.Numbered) (numberedAgain : other.Numbered) : column.Renumbered other := by
  constructor
  · apply forall₂_of_map_eq (congrArg Column.parents same)
    intro field inParents again inOthers alike
    obtain ⟨first, named⟩ := numbered field inParents
    obtain ⟨second, namedAgain⟩ := numberedAgain again inOthers
    simp only [Embedding.unnumbered, Embedding.mk.injEq] at alike
    obtain ⟨fieldNames, typeNames, _⟩ := alike
    exact ⟨fieldNames.symm, typeNames.symm, first, second, named, typeNames ▸ namedAgain⟩
  · exact (congrArg (fun plain : Column => { plain with parents := other.parents }) same).symm

/-- Columns without embedded fields have no variables. -/
theorem Column.Renumbered.eq {column other : Column} (same : column.Renumbered other)
    (direct : column.parents = []) : other = column := by
  obtain ⟨parents, rest⟩ := same
  rw [direct, List.forall₂_nil_left_iff] at parents
  rw [rest, parents, ← direct]

theorem Table.Renumbered.eq {table other : Table} (same : table.Renumbered other)
    (direct : ∀ column ∈ table.columns, column.parents = []) : other = table := by
  obtain ⟨schema, name, className, mappingEnabled, columns⟩ := same
  have equal : other.columns = table.columns := by
    have paired := (List.forall₂_and_left _ _).mpr ⟨direct, columns⟩
    have flipped := (paired.imp fun _ _ alike => (alike.2.eq alike.1).symm)
    rw [List.forall₂_eq_eq_eq] at flipped
    exact flipped.symm
  cases table
  cases other
  simp_all

/-- Ascending columns stand in one order. -/
theorem ColumnsAlike.eq_of_ascending {columns others : List Column}
    (alike : ColumnsAlike columns others)
    (ascending : columns.Pairwise (fun a b => a.name < b.name))
    (ascendingAgain : others.Pairwise (fun a b => a.name < b.name)) :
    columns.map Column.unnumbered = others.map Column.unnumbered := by
  have first : (columns.map Column.unnumbered).Pairwise (fun a b => a.name < b.name) :=
    List.pairwise_map.mpr ascending
  have second : (others.map Column.unnumbered).Pairwise (fun a b => a.name < b.name) :=
    List.pairwise_map.mpr ascendingAgain
  apply List.Perm.eq_of_pairwise _ first second alike
  intro a b _ _ below above
  exact absurd above (String.lt_asymm below)

theorem ClassDeclaration.Rearranged.buildable? {decl other : ClassDeclaration}
    (same : decl.Rearranged other) : other.buildable? = decl.buildable? := by
  rw [same.rest]
  rfl

namespace Metadata.Rearranged

variable {mapping : Mapping} {other : Metadata} (same : mapping.metadata.Rearranged other)

theorem tableScope (mapping : Mapping) (other : Metadata) {decl again : ClassDeclaration}
    (alike : decl.Rearranged again) (options : TableOptions) (parent : Scope) :
    (mapping.withMetadata other).tableScope again options parent =
      mapping.tableScope decl options parent := by
  rw [alike.rest]
  rfl

/-- The tables of all classes are related where those of single classes are. -/
theorem tablesIn {related : Table → Table → Prop} {classes others : List ClassDeclaration}
    (aligned : List.Forall₂ ClassDeclaration.Rearranged classes others) (base : Scope)
    (builds : ∀ decl ∈ classes, ∀ again options, decl.Rearranged again →
      SameOutcome related (mapping.buildIn decl options base)
        ((mapping.withMetadata other).buildIn again options base)) :
    SameOutcome (List.Forall₂ related) (mapping.tablesIn base classes)
      ((mapping.withMetadata other).tablesIn base others) := by
  induction aligned with
  | nil => exact .ok .nil
  | @cons decl again rest restAgain alike _ ih =>
    have later := ih fun decl inRest => builds decl (List.mem_cons_of_mem _ inRest)
    unfold Mapping.tablesIn
    rw [alike.buildable?]
    cases decl.buildable? with
    | none => exact later
    | some options =>
      refine (builds decl List.mem_cons_self again options alike).bind fun table renewed first => ?_
      refine later.bind fun tables tablesAgain others => ?_
      exact .ok (.cons first others)

include same

/-- A table that is built is built from rearranged classes too. -/
theorem exists_buildIn {decl again : ClassDeclaration} (alike : decl.Rearranged again)
    {options : TableOptions} {parent : Scope} {table : Table}
    (built : mapping.buildIn decl options parent = .ok table) :
    ∃ renewed, (mapping.withMetadata other).buildIn again options parent = .ok renewed ∧
      table.Renumbered renewed := by
  have ascending := Mapping.buildIn_ascending built
  have numbered := Mapping.buildIn_numbered built
  obtain ⟨placed, columns, found, levels, rfl⟩ := Mapping.buildIn_eq_ok.mp built
  obtain ⟨others, levelsAgain, columnsAlike⟩ := ColumnFrame.ofLevels_alike
    (same.ofVisit parent placed)
    (walkLevels_rearranged same alike (same.lineage alike options.inheritance) {} {}) levels
  have builtAgain := Mapping.buildIn_eq_ok.mpr
    ⟨placed, others, (tableScope mapping other alike options parent).trans found, levelsAgain, rfl⟩
  refine ⟨_, builtAgain, rfl, rfl, alike.name, rfl, ?_⟩
  have sorted {columns : List Column} (className : String) : (Table.ofColumns placed.schema
      placed.name className options.mapping columns).columns.Perm columns :=
    Table.ofColumns_perm _ _ _ _ _
  have unordered : ColumnsAlike (Table.ofColumns placed.schema placed.name decl.name
      options.mapping columns).columns (Table.ofColumns placed.schema placed.name again.name
        options.mapping others).columns :=
    (((sorted _).map _).trans columnsAlike).trans ((sorted _).map _).symm
  apply forall₂_of_map_eq (unordered.eq_of_ascending ascending
    (Mapping.buildIn_ascending builtAgain))
  intro column member renewed memberAgain equal
  exact Column.renumbered equal (numbered column member)
    (Mapping.buildIn_numbered builtAgain renewed memberAgain)

theorem buildIn {decl again : ClassDeclaration} (alike : decl.Rearranged again)
    (options : TableOptions) (parent : Scope) :
    SameOutcome Table.Renumbered (mapping.buildIn decl options parent)
      ((mapping.withMetadata other).buildIn again options parent) := by
  apply SameOutcome.of_ok
  · intro table built
    exact same.exists_buildIn alike built
  · intro renewed builtAgain
    have back : (mapping.withMetadata other).metadata.Rearranged mapping.metadata := same.symm
    obtain ⟨table, built, _⟩ := back.exists_buildIn alike.symm builtAgain
    change mapping.buildIn decl options parent = _ at built
    rw [built]
    rfl

/-- The scope of a table is the same. -/
theorem tableScope? (className : String) :
    (mapping.withMetadata other).tableScope? className = mapping.tableScope? className := by
  unfold Mapping.tableScope?
  rcases same.class? className with ⟨mine, theirs⟩ | ⟨decl, again, mine, theirs, alike⟩
  · have missing : (mapping.withMetadata other).metadata.class? className = none := theirs
    rw [mine, missing]
  · have declared : (mapping.withMetadata other).metadata.class? className = some again := theirs
    rw [mine, declared]
    simp only [alike.buildable?, tableScope mapping other alike]
    rfl

/-- Every table is mapped in the context it was. -/
theorem contextOf (table : Table) :
    GenerationPlan.contextOf (mapping.withMetadata other) table =
      GenerationPlan.contextOf mapping table := by
  unfold GenerationPlan.contextOf
  rw [same.tableScope?]
  rfl

theorem filesOf (file : MapperFile) (output : String) (tables : List Table) :
    GenerationPlan.filesOf (mapping.withMetadata other) file output tables =
      GenerationPlan.filesOf mapping file output tables := by
  induction tables with
  | nil => rfl
  | cons table rest ih =>
    unfold GenerationPlan.filesOf
    rw [ih, same.contextOf]

theorem tables {related : Table → Table → Prop}
    (builds : ∀ decl ∈ mapping.metadata.classes, ∀ again options base, decl.Rearranged again →
      SameOutcome related (mapping.buildIn decl options base)
        ((mapping.withMetadata other).buildIn again options base)) :
    SameOutcome (List.Forall₂ related) mapping.tables (mapping.withMetadata other).tables := by
  apply (SameOutcome.refl mapping.baseScope).bind
  rintro base _ rfl
  exact tablesIn same.classes base fun decl member again options =>
    builds decl member again options base

end Metadata.Rearranged

/-- No field that the class stores is embedded. -/
def ClassDeclaration.Plain (decl : ClassDeclaration) : Prop :=
  ∀ field ∈ decl.fields, field.Stored → field.embedded = none

theorem LeadsTo.around_eq_nil {metadata : Metadata} {decl : ClassDeclaration} (plain : decl.Plain)
    {leaf : LeafPath} (leads : LeadsTo metadata decl.fields leaf) : leaf.around = [] := by
  cases leads with
  | here _ _ _ => rfl
  | inside member stored embeds _ _ =>
    rw [plain _ member stored] at embeds
    cases embeds

/-- The columns of plain classes are those of the entity's own fields. -/
theorem Mapping.buildIn_direct {mapping : Mapping} {decl : ClassDeclaration}
    {options : TableOptions} {parent : Scope} {table : Table}
    (plain : ∀ level ∈ lineage mapping.metadata decl options.inheritance, level.Plain)
    (built : mapping.buildIn decl options parent = .ok table) :
    ∀ column ∈ table.columns, column.parents = [] := by
  intro column member
  obtain ⟨placed, _, _, leaves⟩ := buildIn_buildsLeaf built
  obtain ⟨level, inLineage, leaf, leads, builds⟩ := leaves column member
  have stores := builds.stores.parents
  rw [leads.around_eq_nil (plain level inLineage)] at stores
  exact List.map_eq_nil_iff.mp stores

/-- Tables of plain classes are equal. -/
theorem Mapping.buildIn_of_plain {mapping : Mapping} {other : Metadata}
    (same : mapping.metadata.Rearranged other) {decl again : ClassDeclaration}
    (alike : decl.Rearranged again) {options : TableOptions} (parent : Scope)
    (plain : ∀ level ∈ lineage mapping.metadata decl options.inheritance, level.Plain) :
    SameOutcome (· = ·) (mapping.buildIn decl options parent)
      ((mapping.withMetadata other).buildIn again options parent) := by
  have outcome := same.buildIn alike options parent
  generalize built : mapping.buildIn decl options parent = first at outcome ⊢
  generalize (mapping.withMetadata other).buildIn again options parent = second at outcome ⊢
  cases outcome with
  | error cause another => exact .error cause another
  | ok renumbered => exact .ok (renumbered.eq (Mapping.buildIn_direct plain built)).symm

/-- The order in which classes declare their fields decides nothing about the success of a table
build. The tables are the same but for the numbers of the variables of embedded fields: they have
the same columns in the same order. So are the tables of all classes, and each is mapped in the same
context. Without embedded fields the tables are equal, and so are the files of their mappers. -/
theorem declaration_order_irrelevant (mapping : Mapping) (other : Metadata)
    (same : mapping.metadata.Rearranged other) :
    (∀ decl again options parent, decl.Rearranged again →
      SameOutcome Table.Renumbered (mapping.buildIn decl options parent)
          ((mapping.withMetadata other).buildIn again options parent) ∧
        ((∀ level ∈ lineage mapping.metadata decl options.inheritance, level.Plain) →
          SameOutcome (· = ·) (mapping.buildIn decl options parent)
            ((mapping.withMetadata other).buildIn again options parent))) ∧
      SameOutcome (List.Forall₂ Table.Renumbered) mapping.tables
        (mapping.withMetadata other).tables ∧
      (∀ table, GenerationPlan.contextOf (mapping.withMetadata other) table =
        GenerationPlan.contextOf mapping table) ∧
      ((∀ decl ∈ mapping.metadata.classes, decl.Plain) →
        SameOutcome (· = ·) mapping.tables (mapping.withMetadata other).tables ∧
          ∀ file output, SameOutcome (· = ·)
            (mapping.tables.mapError .extraction >>= GenerationPlan.filesOf mapping file output)
            ((mapping.withMetadata other).tables.mapError .extraction >>=
              GenerationPlan.filesOf (mapping.withMetadata other) file output)) := by
  refine ⟨fun decl again options parent alike => ⟨?_, ?_⟩, ?_, same.contextOf, fun plain => ?_⟩
  · exact same.buildIn alike options parent
  · exact Mapping.buildIn_of_plain same alike parent
  · exact same.tables fun decl _ again options base alike => same.buildIn alike options base
  · have tables : SameOutcome (· = ·) mapping.tables (mapping.withMetadata other).tables := by
      rw [← List.forall₂_eq_eq_eq]
      apply same.tables
      intro decl declared again options base alike
      exact Mapping.buildIn_of_plain same alike base fun level inLineage =>
        plain level (mem_lineage declared inLineage)
    refine ⟨tables, fun file output => (tables.mapError OperationError.extraction).bind ?_⟩
    rintro built _ rfl
    rw [same.filesOf]
    exact .refl _

/-- The class with its fields from last to first. -/
def ClassDeclaration.reversed (decl : ClassDeclaration) : ClassDeclaration :=
  { decl with fields := decl.fields.reverse }

theorem ClassDeclaration.rearranged_reversed (decl : ClassDeclaration) :
    decl.Rearranged decl.reversed :=
  ⟨(List.reverse_perm _).symm, rfl⟩

def Metadata.reversed (metadata : Metadata) : Metadata :=
  { metadata with classes := metadata.classes.map ClassDeclaration.reversed }

theorem Metadata.rearranged_reversed (metadata : Metadata) :
    metadata.Rearranged metadata.reversed := by
  refine ⟨?_, rfl⟩
  unfold Metadata.reversed
  rw [List.forall₂_map_right_iff, List.forall₂_same]
  exact fun decl _ => decl.rearranged_reversed

/-- A journey from one point to another. -/
def journeyClass : ClassDeclaration where
  name := "shop.Journey"
  fields := [
    { name := "start", type := "shop.Point", embedded := some [] },
    { name := "finish", type := "shop.Point", embedded := some [] }]

def pointClass : ClassDeclaration where
  name := "shop.Point"
  kind := .embeddable
  fields := [{ name := "lng", type := "double" }, { name := "lat", type := "double" }]

def journeyClasses : Metadata where
  classes := [journeyClass, pointClass]
  converters := []

/-- The points of a journey may swap their variables, and a point is stored the same. -/
theorem journeyClasses_reversed :
    (∃ table renewed, (Mapping.ofMetadata journeyClasses).buildIn journeyClass {} {} = .ok table ∧
      (Mapping.ofMetadata journeyClasses.reversed).buildIn journeyClass.reversed {} {} = .ok renewed ∧
      table.Renumbered renewed) ∧
      ∃ table, (Mapping.ofMetadata journeyClasses).buildIn pointClass {} {} = .ok table ∧
        (Mapping.ofMetadata journeyClasses.reversed).buildIn pointClass.reversed {} {} =
          .ok table := by
  obtain ⟨builds, _⟩ := declaration_order_irrelevant (.ofMetadata journeyClasses)
    journeyClasses.reversed journeyClasses.rearranged_reversed
  constructor
  · obtain ⟨table, built⟩ := exists_eq_ok
      (show ((Mapping.ofMetadata journeyClasses).buildIn journeyClass {} {}).isOk = true by
        decide +kernel)
    obtain ⟨same, _⟩ :=
      builds journeyClass journeyClass.reversed {} {} journeyClass.rearranged_reversed
    obtain ⟨renewed, builtAgain, renumbered⟩ := same.exists_ok built
    exact ⟨table, renewed, built, builtAgain, renumbered⟩
  · obtain ⟨table, built⟩ := exists_eq_ok
      (show ((Mapping.ofMetadata journeyClasses).buildIn pointClass {} {}).isOk = true by
        decide +kernel)
    have plain : ∀ level ∈ lineage journeyClasses pointClass false, level.Plain := by
      unfold ClassDeclaration.Plain
      decide
    obtain ⟨_, equal⟩ := builds pointClass pointClass.reversed {} {} pointClass.rearranged_reversed
    obtain ⟨_, builtAgain, rfl⟩ := (equal plain).exists_ok built
    exact ⟨table, built, builtAgain⟩

end EntityMapper
