import EntityMapper.Proofs.Walk.Leaves
import EntityMapper.Proofs.Walk.Levels

/-!
# Visits told apart by names

Where fields differ in name, no leaf path goes on beyond another one, since a field does not both
store a value and lead into its type. So the leaves that one level visits are told apart by the names
on their way (`Walked.eq_of_names`), and none of them lies on the way of another
(`Walked.names_eq_of_begins`).
-/
namespace EntityMapper

/-- A leaf path that begins another one ends with it. -/
theorem LeadsTo.names_eq_of_begins {metadata : Metadata} (classes : metadata.DistinctFields)
    {fields : List FieldDeclaration} (distinct : (fields.map (·.name)).Nodup)
    {short long : LeafPath} (leads : LeadsTo metadata fields short)
    (beyond : LeadsTo metadata fields long) (begins : short.names <+: long.names) :
    short.names = long.names := by
  induction leads generalizing long with
  | @here fields field member stored plain =>
    cases beyond with
    | here _ _ _ => exact begins.eq_of_length rfl
    | @inside _ other _ _ _ otherMember _ embeds _ _ =>
      have named : field.name = other.name := (List.cons_prefix_cons.mp begins).1
      have same := List.inj_on_of_nodup_map distinct member otherMember named
      rw [same, embeds] at plain
      cases plain
  | @inside fields field inner decl nested member stored embeds declared leads ih =>
    cases beyond with
    | here _ _ _ =>
      have shorter := begins.length_le
      simp [LeafPath.names, LeafPath.beneath] at shorter
    | @inside _ other _ otherDecl further otherMember _ otherEmbeds otherDeclared leadsOther =>
      rw [LeafPath.names_beneath, LeafPath.names_beneath, List.cons_prefix_cons] at begins
      obtain ⟨named, begins⟩ := begins
      have same := List.inj_on_of_nodup_map distinct member otherMember named
      subst same
      rw [declared] at otherDeclared
      cases otherDeclared
      rw [LeafPath.names_beneath, LeafPath.names_beneath,
        ih (classes decl (Metadata.class?_mem declared).1) leadsOther begins]

/-- At a level, a visit has the names of its leaf path. -/
theorem Visit.ShowsLeaf.names {level root : ClassDeclaration} {leaf : LeafPath} {path : FieldPath}
    {overrides : Option ColumnOptions}
    (shows : Visit.ShowsLeaf (levelFrame level root) leaf (.leaf path overrides)) :
    path.names = leaf.names ∧ path.site.parents.map (·.fieldName) = path.site.path := by
  obtain ⟨parents, visited, typed⟩ := shows
  cases visited
  have named := congrArg (List.map Prod.fst) typed
  rw [List.map_map, List.map_map] at named
  refine ⟨by simp [FieldPath.names, LeafPath.names, levelFrame], ?_⟩
  simpa [levelFrame, Function.comp_def] using named

section Level

variable {metadata : Metadata} {level root : ClassDeclaration} {vars after : Variables}
  {visits : List Visit}
  (walked : Walked metadata (levelFrame level root) level.fields vars visits after)
  (faultless : ∀ visit ∈ visits, visit.isLeaf = true) (classes : metadata.DistinctFields)
  (distinct : (level.fields.map (·.name)).Nodup)

include walked faultless

theorem Walked.parents_names {path : FieldPath} {overrides : Option ColumnOptions}
    (visited : .leaf path overrides ∈ visits) :
    path.site.parents.map (·.fieldName) = path.site.path := by
  obtain ⟨leaves, _, shown, _⟩ := walked.leaves faultless
  obtain ⟨leaf, _, shows⟩ := exists_of_forall₂ shown visited
  exact shows.names.2

include classes distinct

/-- Leaves with the same names on their way are one leaf, under one merge of its overrides. -/
theorem Walked.eq_of_names {p q : FieldPath} {a b : Option ColumnOptions}
    (visitedP : .leaf p a ∈ visits) (visitedQ : .leaf q b ∈ visits) (same : p.names = q.names) :
    p = q ∧ a = b := by
  obtain ⟨leaves, _, shown, apart⟩ := walked.leaves faultless
  obtain ⟨leafP, inP, showsP⟩ := exists_of_forall₂ shown visitedP
  obtain ⟨leafQ, inQ, showsQ⟩ := exists_of_forall₂ shown visitedQ
  have one : leafP = leafQ := List.inj_on_of_nodup_map (apart classes distinct) inP inQ
    (showsP.names.1.symm.trans (same.trans showsQ.names.1))
  subst one
  have way : p.site.path = q.site.path := (List.append_inj' same rfl).1
  have countP := congrArg List.length showsP.names.2
  have countQ := congrArg List.length showsQ.names.2
  rw [List.length_map] at countP countQ
  -- The variables on the way are those of one walk.
  have parents : p.site.parents = q.site.parents := by
    have shared := walked.shareWay classes distinct rfl visitedP visitedQ p.site.path
      List.prefix_rfl (way ▸ List.prefix_rfl)
    rwa [List.take_of_length_le (Nat.le_of_eq countP),
      List.take_of_length_le (Nat.le_of_eq (way ▸ countQ))] at shared
  obtain ⟨parentsP, visitP, _⟩ := showsP
  obtain ⟨parentsQ, visitQ, _⟩ := showsQ
  cases visitP
  cases visitQ
  rw [List.append_cancel_left parents]
  exact ⟨rfl, rfl⟩

/-- No leaf lies on the way of another. -/
theorem Walked.names_eq_of_begins {p q : FieldPath} {a b : Option ColumnOptions}
    (visitedP : .leaf p a ∈ visits) (visitedQ : .leaf q b ∈ visits) (begins : p.names <+: q.names) :
    p.names = q.names := by
  obtain ⟨leaves, reached, shown, _⟩ := walked.leaves faultless
  obtain ⟨leafP, inP, showsP⟩ := exists_of_forall₂ shown visitedP
  obtain ⟨leafQ, inQ, showsQ⟩ := exists_of_forall₂ shown visitedQ
  rw [showsP.names.1, showsQ.names.1] at begins ⊢
  exact ((reached leafP).mp inP).names_eq_of_begins classes distinct ((reached leafQ).mp inQ) begins

end Level

/-- The visits paired with a level are those of its walk. -/
theorem WalkedLevels.walked {metadata : Metadata} {root : ClassDeclaration}
    {levels : List ClassDeclaration} {vars after : Variables} {visits : List (List Visit)}
    (walked : WalkedLevels metadata root levels vars visits after) {level : ClassDeclaration}
    {seen : List Visit} (paired : (level, seen) ∈ levels.zip visits) :
    ∃ before later, Walked metadata (levelFrame level root) level.fields before seen later := by
  induction walked with
  | done vars => cases paired
  | level walked _ ih =>
    rcases List.mem_cons.mp paired with head | later
    · cases head
      exact ⟨_, _, walked⟩
    · exact ih later

end EntityMapper
