import EntityMapper.Proofs.Extraction.Failure
import EntityMapper.Proofs.Walk.Cycles

/-!
# Builds end, and report cycles exactly

Classes may embed and extend each other in cycles. The rules of the levels and of the walk still
give one finite run, which is what a build goes by; it is no deeper than there are classes. The
build fails for a cycle of embedding exactly when, all before having succeeded, it comes to an
embedded field of the type of its level or of an embedded field around
(`build_ends_reporting_cycles`).
-/
namespace EntityMapper

/-- The path ends at a stored embedded field whose type is that of the level or of an embedded
field around. -/
structure LeafPath.ClosesCycle (level : ClassDeclaration) (path : LeafPath) : Prop where
  stored : path.field.Stored
  embedded : path.field.embedded.isSome = true
  again : path.field.type = level.name ∨ ∃ outer ∈ path.around, path.field.type = outer.type

namespace Mapping

/-- The build of a table comes to the last field of a path at one of its levels: the table is
placed, the levels below are built, and so is all that the walk of the level has visited before. -/
def ComesTo (mapping : Mapping) (decl : ClassDeclaration) (options : TableOptions) (parent : Scope)
    (level : ClassDeclaration) (path : LeafPath) : Prop :=
  ∃ placed lower upper visits vars columns earlier own,
    mapping.tableScope decl options parent = .ok placed ∧
    mapping.metadata.Levels decl options.inheritance (lower ++ level :: upper) ∧
    WalkedLevels mapping.metadata decl lower {} visits vars ∧
    (mapping.columnFrame parent placed).ofLevels [] visits = .ok columns ∧
    Comes mapping.metadata (levelFrame level decl) level.fields vars earlier path ∧
    (mapping.columnFrame parent placed).ofVisits earlier = .ok own

/-- The columns of the visits of all levels, as a table. -/
def tableOf (mapping : Mapping) (decl : ClassDeclaration) (options : TableOptions) (parent : Scope)
    (visits : List (List Visit)) : Except MappingError Table := do
  let placed ← mapping.tableScope decl options parent
  let columns ← (mapping.columnFrame parent placed).ofLevels [] visits
  return Table.ofColumns placed.schema placed.name decl.name options.mapping columns

/-- A build is the run that the rules give. -/
theorem buildIn_eq_tableOf (mapping : Mapping) (decl : ClassDeclaration) (options : TableOptions)
    (parent : Scope) {levels : List ClassDeclaration} {visits : List (List Visit)}
    {after : Variables} (ruled : mapping.metadata.Levels decl options.inheritance levels)
    (walked : WalkedLevels mapping.metadata decl levels {} visits after) :
    mapping.buildIn decl options parent = mapping.tableOf decl options parent visits := by
  obtain ⟨_, run⟩ := walkLevels_run mapping.metadata decl levels {}
  obtain ⟨same, _⟩ := walked.unique run
  rw [same, ruled.eq_lineage, buildIn, tableOf]
  cases found : mapping.tableScope decl options parent with
  | error cause => rfl
  | ok placed =>
    have dialect := tableScope_dialect found
    simp only [bind, Except.bind, dialect]
    rfl

end Mapping

/-- A level fails for a cycle when all that was visited before is built. -/
theorem ColumnFrame.ofLevel_cycle {frame : ColumnFrame} {visits : List Visit}
    {className dotted : String} :
    frame.ofLevel visits = .error (.embeddingCycle className dotted) ↔
      ∃ earlier later own, visits = earlier ++ .cycle className dotted :: later ∧
        frame.ofVisits earlier = .ok own := by
  constructor
  · intro failed
    rcases ofLevel_eq_error failed with visited | ⟨name, other⟩
    · obtain ⟨earlier, visit, later, own, rfl, succeed, fails⟩ := ofVisits_eq_error.mp visited
      rcases ofVisit_eq_error fails with ⟨_, _, _, other⟩ | ⟨_, _, rfl, same⟩ | ⟨_, _, _, unbuilt⟩
      · cases other
      · cases same
        exact ⟨earlier, later, own, rfl, succeed⟩
      · rcases build_eq_error unbuilt with other | ⟨_, _, _, other⟩ | ⟨_, other⟩ <;> cases other
    · cases other
  · rintro ⟨earlier, later, own, rfl, succeed⟩
    exact bind_eq_error.mpr (.inl (ofVisits_eq_error.mpr
      ⟨earlier, _, later, own, rfl, succeed, rfl⟩))

namespace Mapping

/-- At a declared level, a field that the walk comes to returns when it closes a cycle. -/
theorem returns_iff_closesCycle {metadata : Metadata} {level root : ClassDeclaration}
    {vars : Variables} {earlier : List Visit} {path : LeafPath}
    (declared : level ∈ metadata.classes)
    (comes : Comes metadata (levelFrame level root) level.fields vars earlier path) :
    path.Returns metadata (levelFrame level root).entered ↔ path.ClosesCycle level := by
  constructor
  · intro returns
    refine ⟨returns.stored, returns.embedded, returns.again.imp (by simp [levelFrame]) ?_⟩
    intro inside
    obtain ⟨outer, member, same⟩ := List.mem_map.mp inside
    exact ⟨outer, member, same.symm⟩
  · intro closes
    have found (name : String) (named : name ∈ metadata.classes.map (·.name)) :
        (metadata.class? name).isSome = true := by
      rw [Metadata.class?, List.find?_isSome]
      simpa using named
    refine ⟨closes.stored, closes.embedded, found _ ?_, ?_⟩
    · rcases closes.again with same | ⟨outer, member, same⟩
      · exact same ▸ List.mem_map_of_mem declared
      · exact same ▸ (comes.around_types.2 outer member).2
    · rcases closes.again with same | ⟨outer, member, same⟩
      · exact .inl (by simp [levelFrame, same])
      · exact .inr (List.mem_map.mpr ⟨outer, member, same.symm⟩)

/-- A build fails for a cycle exactly where it comes to a field that closes one. -/
theorem buildIn_cycle_iff {mapping : Mapping} {decl : ClassDeclaration}
    (declared : decl ∈ mapping.metadata.classes) (options : TableOptions) (parent : Scope)
    (className dotted : String) :
    mapping.buildIn decl options parent = .error (.embeddingCycle className dotted) ↔
      ∃ level path, mapping.ComesTo decl options parent level path ∧ path.ClosesCycle level ∧
        className = path.field.type ∧ dotted = Text.joinWith "." path.names := by
  constructor
  · intro failed
    have ruled := lineage_levels mapping.metadata decl options.inheritance
    obtain ⟨after, run⟩ := walkLevels_run mapping.metadata decl
      (lineage mapping.metadata decl options.inheritance) {}
    rcases buildIn_eq_error.mp failed with unplaced | ⟨placed, found, failed⟩
    · cases tableScope_eq_error unplaced
    · obtain ⟨below, here, above, columns, met, built, failed⟩ :=
        ColumnFrame.ofLevels_eq_error.mp failed
      obtain ⟨earlier, later, own, reported, succeed⟩ := ColumnFrame.ofLevel_cycle.mp failed
      rw [met] at run
      obtain ⟨lower, level, upper, middle, beyond, split, walkedLower, walked⟩ := run.split
      have inClasses : level ∈ mapping.metadata.classes :=
        mem_lineage declared (by rw [split]; simp)
      obtain ⟨path, comes, returns, named, located⟩ := walked.cycle_iff.mp ⟨later, reported⟩
      exact ⟨level, path, ⟨placed, lower, upper, below, middle, columns, earlier, own, found,
        split ▸ ruled, walkedLower, built, comes, succeed⟩,
        (returns_iff_closesCycle inClasses comes).mp returns, named, located⟩
  · rintro ⟨level, path, ⟨placed, lower, upper, below, middle, columns, earlier, own, found, ruled,
      walkedLower, built, comes, succeed⟩, closes, rfl, rfl⟩
    have inClasses : level ∈ mapping.metadata.classes :=
      mem_lineage declared (by rw [← ruled.eq_lineage]; simp)
    have walked := walk_level_walked mapping.metadata level decl middle
    obtain ⟨later, reported⟩ :=
      comes.reports ((returns_iff_closesCycle inClasses comes).mpr closes) walked
    obtain ⟨_, walkedUpper⟩ := walkLevels_run mapping.metadata decl upper
      (walk mapping.metadata mapping.metadata.walkBudget (levelFrame level decl) middle).2
    rw [buildIn_eq_tableOf mapping decl options parent ruled
      (walkedLower.append (.level walked walkedUpper)), tableOf]
    refine bind_eq_error.mpr (.inr ⟨placed, found, bind_eq_error.mpr (.inl ?_)⟩)
    exact ColumnFrame.ofLevels_eq_error.mpr ⟨below, _, _, columns, rfl, built,
      ColumnFrame.ofLevel_cycle.mpr ⟨earlier, later, own, reported, succeed⟩⟩

/-- A build that comes to an embedded field which closes no cycle goes on inside its type. -/
theorem ComesTo.enters {mapping : Mapping} {decl : ClassDeclaration} {options : TableOptions}
    {parent : Scope} {level : ClassDeclaration} {path : LeafPath}
    (comesTo : mapping.ComesTo decl options parent level path) (stored : path.field.Stored)
    {inner : Overrides} (embeds : path.field.embedded = some inner) {inside : ClassDeclaration}
    (found : mapping.metadata.class? path.field.type = some inside)
    (notClosing : ¬ path.ClosesCycle level) {first : FieldDeclaration} {others : List FieldDeclaration}
    (holds : inside.fields = first :: others) :
    mapping.ComesTo decl options parent level ⟨path.around ++ [path.field], first⟩ := by
  obtain ⟨placed, lower, upper, visits, vars, columns, earlier, own, named, ruled, walked, built,
    comes, succeed⟩ := comesTo
  have fresh : path.field.type ∉ (levelFrame level decl).entered ∧
      path.field.type ∉ path.around.map (·.type) := by
    refine ⟨fun again => notClosing ?_, fun again => notClosing ?_⟩
    · exact ⟨stored, by simp [embeds], .inl (List.mem_singleton.mp again)⟩
    · obtain ⟨outer, member, same⟩ := List.mem_map.mp again
      exact ⟨stored, by simp [embeds], .inr ⟨outer, member, same.symm⟩⟩
  exact ⟨placed, lower, upper, visits, vars, columns, earlier, own, named, ruled, walked, built,
    comes.enters stored embeds found fresh holds, succeed⟩

theorem ComesTo.depth_lt {mapping : Mapping} {decl : ClassDeclaration} {options : TableOptions}
    {parent : Scope} (declared : decl ∈ mapping.metadata.classes) {level : ClassDeclaration}
    {path : LeafPath} (comesTo : mapping.ComesTo decl options parent level path) :
    path.around.length < mapping.metadata.classes.length := by
  obtain ⟨_, lower, upper, _, _, _, _, _, _, ruled, _, _, comes, _⟩ := comesTo
  exact comes.depth_lt (mem_lineage declared (by rw [← ruled.eq_lineage]; simp))

end Mapping

/-- However classes embed and extend each other, the rules give one run of the levels and of their
walks, and the build of a declared class goes by it, inside fewer embedded fields than there are
classes. It fails for a cycle of embedding exactly where it comes to a field that closes one; inside
any other embedded field of a declared type it goes on, wherever else the type was used. -/
theorem build_ends_reporting_cycles (mapping : Mapping) (decl : ClassDeclaration)
    (declared : decl ∈ mapping.metadata.classes) (options : TableOptions) (parent : Scope) :
    (∃ levels visits after, mapping.metadata.Levels decl options.inheritance levels ∧
      WalkedLevels mapping.metadata decl levels {} visits after ∧
      (∀ levels' visits' after', mapping.metadata.Levels decl options.inheritance levels' →
        WalkedLevels mapping.metadata decl levels' {} visits' after' →
          levels' = levels ∧ visits' = visits ∧ after' = after) ∧
      mapping.buildIn decl options parent = mapping.tableOf decl options parent visits) ∧
    (∀ level path, mapping.ComesTo decl options parent level path →
      path.around.length < mapping.metadata.classes.length) ∧
    (∀ className dotted,
      mapping.buildIn decl options parent = .error (.embeddingCycle className dotted) ↔
        ∃ level path, mapping.ComesTo decl options parent level path ∧ path.ClosesCycle level ∧
          className = path.field.type ∧ dotted = Text.joinWith "." path.names) ∧
    ∀ level path inside first others, mapping.ComesTo decl options parent level path →
      path.field.Stored → path.field.embedded.isSome = true →
      mapping.metadata.class? path.field.type = some inside → inside.fields = first :: others →
      ¬ path.ClosesCycle level →
        mapping.ComesTo decl options parent level ⟨path.around ++ [path.field], first⟩ := by
  have ruled := lineage_levels mapping.metadata decl options.inheritance
  obtain ⟨after, run⟩ := walkLevels_run mapping.metadata decl
    (lineage mapping.metadata decl options.inheritance) {}
  refine ⟨⟨_, _, after, ruled, run, fun levels visits other ruled' run' => ?_, ?_⟩, ?_, ?_, ?_⟩
  · obtain rfl := ruled'.eq_lineage
    exact ⟨rfl, run'.unique run⟩
  · exact Mapping.buildIn_eq_tableOf mapping decl options parent ruled run
  · exact fun level path comesTo => comesTo.depth_lt declared
  · exact Mapping.buildIn_cycle_iff declared options parent
  · intro level path inside first others comesTo stored embedded found holds notClosing
    obtain ⟨inner, embeds⟩ := Option.isSome_iff_exists.mp embedded
    exact comesTo.enters stored embeds found notClosing holds

/-- Two rings that extend each other. A ring has two points and a node, and a node the next one. -/
def innerRing : ClassDeclaration where
  name := "ring.Inner"
  superclass := some "ring.Outer"
  fields := [
    { name := "start", type := "ring.Point", embedded := some [] },
    { name := "stop", type := "ring.Point", embedded := some [] }]

def outerRing : ClassDeclaration where
  name := "ring.Outer"
  superclass := some "ring.Inner"
  fields := [{ name := "node", type := "ring.Node", embedded := some [] }]

def ringClasses : Metadata where
  classes := [innerRing, outerRing,
    { name := "ring.Point", kind := .embeddable, fields := [{ name := "x", type := "double" }] },
    { name := "ring.Node"
      kind := .embeddable
      fields := [
        { name := "at", type := "ring.Point", embedded := some [] },
        { name := "next", type := "ring.Node", embedded := some [] }] }]
  converters := []

/-- The points of the inner ring are no cycle, the next node of the outer one is. -/
theorem ringClasses_reports_cycle :
    innerRing ∈ (Mapping.ofMetadata ringClasses).metadata.classes ∧
      ∃ level path, (Mapping.ofMetadata ringClasses).ComesTo innerRing { inheritance := true } {}
        level path ∧ path.ClosesCycle level ∧ "ring.Node" = path.field.type ∧
          "node.next" = Text.joinWith "." path.names := by
  have declared : innerRing ∈ (Mapping.ofMetadata ringClasses).metadata.classes := by decide
  have failed : (Mapping.ofMetadata ringClasses).buildIn innerRing { inheritance := true } {} =
      .error (.embeddingCycle "ring.Node" "node.next") := cause?_eq_some.mp (by decide +kernel)
  exact ⟨declared, ((build_ends_reporting_cycles (.ofMetadata ringClasses) innerRing declared
    { inheritance := true } {}).2.2.1 "ring.Node" "node.next").mp failed⟩

example : lineage ringClasses innerRing true = [innerRing, outerRing] := by decide

end EntityMapper
