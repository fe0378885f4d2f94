import EntityMapper.Proofs.Extraction.Build
import EntityMapper.Proofs.Extraction.Sources
import EntityMapper.Proofs.TypeMapping.Lookup
import Mathlib.Data.List.Perm.Basic

/-!
# A table flattens its class

Without inheritance, the columns of a table are in one-to-one correspondence with the leaf paths
of its class that can be stored (`table_columns_leaves`): none is lost, none is invented, and each
column tells its leaf path. Which leaf paths can be stored is said of the declarations alone.
-/
namespace EntityMapper

/-- Some override of the table's class, or of an embedded field around the leaf, is keyed by the
path that remains from there. -/
def LeafPath.Overridden (root : ClassDeclaration) (leaf : LeafPath) : Prop :=
  Text.joinWith "." leaf.names ∈ root.overrides.names ∨
    ∃ before field after inner, leaf.around = before ++ field :: after ∧
      field.embedded = some inner ∧
      Text.joinWith "." (after.map (·.name) ++ [leaf.field.name]) ∈ inner.names

/-- The type has a row in the dialect or a default converter. -/
def Mapping.Resolves (mapping : Mapping) (dialect typeName : String) : Prop :=
  (∃ sql, mapping.types.sqlType dialect (mapping.fieldType typeName) = .ok sql) ∨
    ∃ converter, mapping.converters.forType? (mapping.fieldType typeName) = some converter

/-- A leaf path of the class that a table stores. -/
structure Mapping.BuildableLeaf (mapping : Mapping) (parent : Scope) (decl : ClassDeclaration)
    (leaf : LeafPath) : Prop where
  reached : LeadsTo mapping.metadata decl.fields leaf
  kept : leaf.field.column.isSome = true ∨ leaf.Overridden decl ∨
    mapping.Resolves (mapping.dialectIn parent) leaf.field.type

/-- Some embedded field of a path has an entry for what remains below it. -/
theorem enclosingEntries_isSome (around : List FieldDeclaration) (last : String) :
    (enclosingEntries around (around.map (·.name) ++ [last])).any Option.isSome = true ↔
      ∃ before field after inner, around = before ++ field :: after ∧
        field.embedded = some inner ∧
        Text.joinWith "." (after.map (·.name) ++ [last]) ∈ Entries.names inner := by
  induction around with
  | nil => simp [enclosingEntries]
  | cons field around ih =>
    rw [List.map_cons, List.cons_append, enclosingEntries, List.any_cons, List.tail_cons,
      Bool.or_eq_true, ih, Entries.get?_isSome]
    constructor
    · rintro (here | ⟨before, inside, after, inner, rfl, embeds, keyed⟩)
      · cases embeds : field.embedded with
        | none => simp [embeds, Entries.names] at here
        | some inner => exact ⟨[], field, around, inner, rfl, embeds, by simpa [embeds] using here⟩
      · exact ⟨field :: before, inside, after, inner, rfl, embeds, keyed⟩
    · rintro ⟨before, inside, after, inner, split, embeds, keyed⟩
      cases before with
      | nil =>
        obtain ⟨rfl, rfl⟩ := List.cons.inj split
        exact .inl (by simpa [embeds] using keyed)
      | cons outer before =>
        obtain ⟨rfl, rfl⟩ := List.cons.inj split
        exact .inr ⟨before, inside, after, inner, rfl, embeds, keyed⟩

theorem overridesFor_isSome (root : ClassDeclaration) (leaf : LeafPath) :
    ((levelFrame root root).overridesFor leaf).isSome = true ↔ leaf.Overridden root := by
  rw [isSome_overridesFor, LeafPath.entries, if_pos rfl, LeafPath.Overridden,
    ← Entries.get?_isSome, ← enclosingEntries_isSome]
  simp [LeafPath.names]

theorem isStorable_iff (frame : ColumnFrame) (typeName : String) :
    frame.isStorable typeName = true ↔ frame.mapping.Resolves frame.dialect typeName := by
  rw [ColumnFrame.isStorable, Bool.or_eq_true, Mapping.Resolves, DialectRouter.maps,
    Option.isSome_iff_exists, Option.isSome_iff_exists]
  exact or_congr_left (exists_congr fun sql => DialectRouter.sqlType_eq_ok.symm)

theorem keepsLeaf_iff (frame : ColumnFrame) (root : ClassDeclaration) (leaf : LeafPath) :
    frame.keepsLeaf (levelFrame root root) leaf = true ↔
      leaf.field.column.isSome = true ∨ leaf.Overridden root ∨
        frame.mapping.Resolves frame.dialect leaf.field.type := by
  rw [ColumnFrame.keepsLeaf, ColumnFrame.keeps, Bool.or_eq_true, Bool.or_eq_true,
    overridesFor_isSome, isStorable_iff, or_assoc]

/-- The embedded fields of a visited leaf have the names of its path. -/
theorem Visit.ShowsLeaf.parents_names {level root : ClassDeclaration} {leaf : LeafPath}
    {path : FieldPath} {overrides : Option ColumnOptions}
    (shows : Visit.ShowsLeaf (levelFrame level root) leaf (.leaf path overrides)) :
    path.site.parents.map (·.fieldName) = path.site.path := by
  obtain ⟨parents, visited, typed⟩ := shows
  cases visited
  have names := congrArg (List.map Prod.fst) typed
  simpa [levelFrame, List.map_map, Function.comp_def] using names

/-- A table of one level: its columns answer to the stored leaf paths of the class, one column a
leaf path, and columns with a common way share its embedded fields with their variables. -/
theorem table_columns_leaves (mapping : Mapping) (decl : ClassDeclaration) (options : TableOptions)
    (parent : Scope) (table : Table) (single : options.inheritance = false)
    (classes : mapping.metadata.DistinctFields) (fields : (decl.fields.map (·.name)).Nodup)
    (built : mapping.buildIn decl options parent = .ok table) :
    ∃ leaves : List LeafPath,
      (∀ leaf, leaf ∈ leaves ↔ mapping.BuildableLeaf parent decl leaf) ∧
      (leaves.map LeafPath.names).Nodup ∧
      List.Forall₂ Column.Stores table.columns leaves ∧
      ∀ a ∈ table.columns, ∀ b ∈ table.columns, ∀ way : List String,
        way <+: a.parents.map (·.fieldName) → way <+: b.parents.map (·.fieldName) →
          a.parents.take way.length = b.parents.take way.length := by
  obtain ⟨placed, columns, _, levels, rfl⟩ := Mapping.buildIn_eq_ok.mp built
  rw [lineage, if_neg (by simp [single]), walkLevels_single, ColumnFrame.ofLevels_single] at levels
  obtain ⟨visited, _⟩ := ColumnFrame.ofLevel_eq_ok levels
  have walked := walk_level_walked mapping.metadata decl decl {}
  obtain ⟨leaves, reached, shown, distinct⟩ :=
    walked.leaves (ColumnFrame.ofVisits_faultless visited)
  have builds := ColumnFrame.ofVisits_leaves shown visited
  -- The table sorts its columns by name; the leaf paths are put into the same order.
  have sorted : (columns.mergeSort Table.nameLe).Perm columns := List.mergeSort_perm _ _
  obtain ⟨ordered, answers, permuted⟩ := List.perm_comp_forall₂ sorted builds.flip
  refine ⟨ordered, fun leaf => ?_, ?_, ?_, ?_⟩
  · rw [permuted.mem_iff, List.mem_filter, reached, keepsLeaf_iff]
    exact ⟨fun ⟨leads, kept⟩ => ⟨leads, kept⟩, fun buildable => ⟨buildable.reached, buildable.kept⟩⟩
  · rw [(permuted.map LeafPath.names).nodup_iff]
    exact (distinct classes fields).sublist (List.filter_sublist.map _)
  · exact answers.imp fun _ _ => ColumnFrame.BuildsLeaf.stores
  · intro a memberA b memberB way wayA wayB
    obtain ⟨p, _, visitedP, builtP⟩ := ColumnFrame.mem_ofVisits visited (sorted.mem_iff.mp memberA)
    obtain ⟨q, _, visitedQ, builtQ⟩ := ColumnFrame.mem_ofVisits visited (sorted.mem_iff.mp memberB)
    obtain ⟨_, _, _, _, _, _, rfl⟩ := ColumnFrame.build_eq_ok.mp builtP
    obtain ⟨_, _, _, _, _, _, rfl⟩ := ColumnFrame.build_eq_ok.mp builtQ
    obtain ⟨_, _, showsP⟩ := exists_of_forall₂ shown visitedP
    obtain ⟨_, _, showsQ⟩ := exists_of_forall₂ shown visitedQ
    exact walked.shareWay classes fields rfl visitedP visitedQ way (showsP.parents_names ▸ wayA)
      (showsQ.parents_names ▸ wayB)

/-- A route between two stops. One stop overrides what its spot says of the hint, whose type no
dialect knows. -/
def tripClasses : Metadata where
  classes := [
    { name := "trip.Route"
      table := some {}
      fields := [
        { name := "id", type := "long" },
        { name := "origin", type := "trip.Stop",
          embedded := some [("spot.hint", { sqlType := some "varchar" })] },
        { name := "target", type := "trip.Stop", embedded := some [] },
        { name := "cache", type := "long", isTransient := true }]
      overrides := [("cache", {})] },
    { name := "trip.Stop"
      kind := .embeddable
      fields := [
        { name := "city", type := "java.lang.String" },
        { name := "spot", type := "trip.Spot", embedded := some [] }] },
    { name := "trip.Spot"
      kind := .embeddable
      fields := [{ name := "x", type := "double" }, { name := "hint", type := "trip.Hint" }] }]
  converters := []

def tripRoute : ClassDeclaration :=
  tripClasses.classes.headD { name := "" }

/-- The table of the route has a column for each field of its stops and spots that can be stored. -/
theorem tripRoute_columns_leaves :
    ∃ table, (Mapping.ofMetadata tripClasses).buildIn tripRoute {} {} = .ok table ∧
      ∃ leaves : List LeafPath,
        (∀ leaf, leaf ∈ leaves ↔
          (Mapping.ofMetadata tripClasses).BuildableLeaf {} tripRoute leaf) ∧
        List.Forall₂ Column.Stores table.columns leaves := by
  obtain ⟨table, built⟩ := exists_eq_ok
    (show ((Mapping.ofMetadata tripClasses).buildIn tripRoute {} {}).isOk = true by decide +kernel)
  obtain ⟨leaves, stored, _, answers, _⟩ := table_columns_leaves (.ofMetadata tripClasses) tripRoute
    {} {} table rfl (by decide) (by decide) built
  exact ⟨table, built, leaves, stored, answers⟩

end EntityMapper
