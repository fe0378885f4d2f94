import EntityMapper.Proofs.Walk.LeafPath
import EntityMapper.Proofs.Walk.Levels
import Mathlib.Data.List.Perm.Subperm

/-!
# Where embedding comes back to itself

`Comes` says that a depth-first walk comes to a field, and what it has visited before. A walk
reports a cycle exactly where it comes to an embedded field of a type that has been entered and not
left: the type of the level or of an embedded field around (`Walked.cycle_iff`). What lies beside
the way to the field plays no part, so an embedded type may be used again there (`Comes.enters`).
-/
namespace EntityMapper

/-- The walk of `fields` comes to the last field of a path, stored or not, after the visits
`earlier`. -/
inductive Comes (metadata : Metadata) :
    Frame → List FieldDeclaration → Variables → List Visit → LeafPath → Prop where
  | here {frame : Frame} {field : FieldDeclaration} {rest : List FieldDeclaration}
      {vars : Variables} : Comes metadata frame (field :: rest) vars [] ⟨[], field⟩
  | past {frame : Frame} {field : FieldDeclaration} {rest : List FieldDeclaration}
      {vars middle : Variables} {first earlier : List Visit} {path : LeafPath}
      (head : Walked metadata frame [field] vars first middle)
      (comes : Comes metadata frame rest middle earlier path) :
      Comes metadata frame (field :: rest) vars (first ++ earlier) path
  | inside {frame : Frame} {field : FieldDeclaration} {rest : List FieldDeclaration}
      {inner : Overrides} {decl : ClassDeclaration} {vars : Variables} {earlier : List Visit}
      {path : LeafPath} (stored : field.Stored) (embeds : field.embedded = some inner)
      (declared : metadata.class? field.type = some decl) (fresh : field.type ∉ frame.entered)
      (comes : Comes metadata (frame.within field inner decl vars) decl.fields
        (vars.allocate field.type).2 earlier path) :
      Comes metadata frame (field :: rest) vars earlier (path.beneath field)

/-- The path ends at an embedded field of a declared type that is among the classes `entered` or
the type of an embedded field around. -/
structure LeafPath.Returns (metadata : Metadata) (entered : List String) (path : LeafPath) : Prop where
  stored : path.field.Stored
  embedded : path.field.embedded.isSome = true
  declared : (metadata.class? path.field.type).isSome = true
  again : path.field.type ∈ entered ∨ path.field.type ∈ path.around.map (·.type)

theorem LeafPath.returns_beneath {metadata : Metadata} {entered : List String}
    {field : FieldDeclaration} {path : LeafPath} :
    (path.beneath field).Returns metadata entered ↔ path.Returns metadata (field.type :: entered) := by
  have again : (path.field.type ∈ entered ∨
      path.field.type ∈ (field :: path.around).map (·.type)) ↔
        (path.field.type ∈ field.type :: entered ∨ path.field.type ∈ path.around.map (·.type)) := by
    simp only [List.map_cons, List.mem_cons]
    tauto
  exact ⟨fun returns => ⟨returns.stored, returns.embedded, returns.declared, again.mp returns.again⟩,
    fun returns => ⟨returns.stored, returns.embedded, returns.declared, again.mpr returns.again⟩⟩

/-- An embedded field that is entered, walked on its own. -/
theorem Walked.inside_single {metadata : Metadata} {frame : Frame} {field : FieldDeclaration}
    {inner : Overrides} {decl : ClassDeclaration} {vars middle : Variables} {nested : List Visit}
    (stored : field.Stored) (embeds : field.embedded = some inner)
    (declared : metadata.class? field.type = some decl) (fresh : field.type ∉ frame.entered)
    (body : Walked metadata (frame.within field inner decl vars) decl.fields
      (vars.allocate field.type).2 nested middle) :
    Walked metadata frame [field] vars nested middle := by
  simpa using Walked.inside stored embeds declared fresh body (.done frame middle)

/-- The first field is walked on its own, and the others after it. -/
theorem walked_cons {metadata : Metadata} {frame : Frame} {field : FieldDeclaration}
    {rest : List FieldDeclaration} {vars after : Variables} {visits : List Visit}
    (walked : Walked metadata frame (field :: rest) vars visits after) :
    ∃ first middle others, Walked metadata frame [field] vars first middle ∧
      Walked metadata frame rest middle others after ∧ visits = first ++ others := by
  cases walked with
  | dropped unstored others => exact ⟨[], vars, _, .dropped unstored (.done _ _), others, rfl⟩
  | leaf stored plain others => exact ⟨[_], vars, _, .leaf stored plain (.done _ _), others, rfl⟩
  | unknown stored embeds missing others =>
    exact ⟨[_], vars, _, .unknown stored embeds missing (.done _ _), others, rfl⟩
  | cycle stored embeds declared again others =>
    exact ⟨[_], vars, _, .cycle stored embeds declared again (.done _ _), others, rfl⟩
  | inside stored embeds declared fresh body others =>
    exact ⟨_, _, _, .inside_single stored embeds declared fresh body, others, rfl⟩

/-- A reported cycle is that of a field the walk comes to. -/
theorem Walked.comes_of_cycle {metadata : Metadata} {frame : Frame}
    {fields : List FieldDeclaration} {vars after : Variables} {visits : List Visit}
    (walked : Walked metadata frame fields vars visits after) {earlier later : List Visit}
    {className dotted : String} (met : visits = earlier ++ .cycle className dotted :: later) :
    ∃ path, Comes metadata frame fields vars earlier path ∧ path.Returns metadata frame.entered ∧
      className = path.field.type ∧ dotted = Text.joinWith "." (frame.site.path ++ path.names) := by
  induction walked generalizing earlier later with
  | done frame vars => simp at met
  | dropped unstored _ ih =>
    obtain ⟨path, comes, returns⟩ := ih met
    exact ⟨path, .past (.dropped unstored (.done _ _)) comes, returns⟩
  | leaf stored plain _ ih =>
    cases earlier with
    | nil => cases met
    | cons visit earlier =>
      obtain ⟨rfl, beyond⟩ := List.cons.inj met
      obtain ⟨path, comes, returns⟩ := ih beyond
      exact ⟨path, .past (.leaf stored plain (.done _ _)) comes, returns⟩
  | unknown stored embeds missing _ ih =>
    cases earlier with
    | nil => cases met
    | cons visit earlier =>
      obtain ⟨rfl, beyond⟩ := List.cons.inj met
      obtain ⟨path, comes, returns⟩ := ih beyond
      exact ⟨path, .past (.unknown stored embeds missing (.done _ _)) comes, returns⟩
  | @cycle frame field _ _ _ _ _ _ stored embeds declared again _ ih =>
    cases earlier with
    | nil =>
      cases met
      exact ⟨⟨[], field⟩, .here, ⟨stored, by simp [embeds], by simp [declared], .inl again⟩, rfl, rfl⟩
    | cons visit earlier =>
      obtain ⟨rfl, beyond⟩ := List.cons.inj met
      obtain ⟨path, comes, returns⟩ := ih beyond
      exact ⟨path, .past (.cycle stored embeds declared again (.done _ _)) comes, returns⟩
  | @inside frame field _ _ _ _ _ _ _ _ stored embeds declared fresh body _ ihBody ihOthers =>
    have head := Walked.inside_single stored embeds declared fresh body
    rcases List.append_eq_append_iff.mp met with ⟨between, rfl, beyond⟩ | ⟨within, upTo, beyond⟩
    · obtain ⟨path, comes, returns⟩ := ihOthers beyond
      exact ⟨path, .past head comes, returns⟩
    · cases within with
      | nil =>
        -- The cycle is the first visit after those inside the field.
        rw [List.append_nil] at upTo
        subst upTo
        have first : _ = [] ++ Visit.cycle className dotted :: later := beyond.symm
        obtain ⟨path, comes, returns⟩ := ihOthers first
        exact ⟨path, by simpa using Comes.past head comes, returns⟩
      | cons visit within =>
        obtain ⟨rfl, _⟩ := List.cons.inj beyond
        obtain ⟨path, comes, returns, named, located⟩ := ihBody upTo
        refine ⟨path.beneath field, .inside stored embeds declared fresh comes,
          LeafPath.returns_beneath.mpr returns, named, ?_⟩
        simpa using located

/-- A walk that comes to a field which returns reports a cycle there. -/
theorem Comes.reports {metadata : Metadata} {frame : Frame} {fields : List FieldDeclaration}
    {vars after : Variables} {visits earlier : List Visit} {path : LeafPath}
    (comes : Comes metadata frame fields vars earlier path)
    (returns : path.Returns metadata frame.entered)
    (walked : Walked metadata frame fields vars visits after) :
    ∃ later, visits = earlier ++
      .cycle path.field.type (Text.joinWith "." (frame.site.path ++ path.names)) :: later := by
  induction comes generalizing visits after with
  | here =>
    have again := returns.again.resolve_right List.not_mem_nil
    cases walked with
    | dropped unstored _ => exact absurd returns.stored unstored
    | leaf _ plain _ => exact absurd returns.embedded (by simp [plain])
    | unknown _ _ missing _ => exact absurd returns.declared (by simp [missing])
    | cycle _ _ _ _ _ => exact ⟨_, rfl⟩
    | inside _ _ _ fresh _ _ => exact absurd again fresh
  | past head comes ih =>
    obtain ⟨first, middle, others, headAgain, rest, rfl⟩ := walked_cons walked
    obtain ⟨rfl, rfl⟩ := head.unique headAgain
    obtain ⟨later, rfl⟩ := ih returns rest
    exact ⟨later, (List.append_assoc _ _ _).symm⟩
  | inside stored embeds declared fresh comes ih =>
    cases walked with
    | dropped unstored _ => exact absurd stored unstored
    | leaf _ plain _ => cases plain.symm.trans embeds
    | unknown _ _ missing _ => cases missing.symm.trans declared
    | cycle _ _ _ entered _ => exact absurd entered fresh
    | inside _ embedsAgain declaredAgain _ body others =>
      cases embeds.symm.trans embedsAgain
      cases declared.symm.trans declaredAgain
      obtain ⟨later, rfl⟩ := ih (LeafPath.returns_beneath.mp returns) body
      exact ⟨_, by simp [LeafPath.beneath, LeafPath.names, List.append_assoc]; rfl⟩

/-- A walk reports a cycle after the visits `earlier` exactly when it comes then to a field that
returns. -/
theorem Walked.cycle_iff {metadata : Metadata} {frame : Frame} {fields : List FieldDeclaration}
    {vars after : Variables} {visits : List Visit}
    (walked : Walked metadata frame fields vars visits after) {earlier : List Visit}
    {className dotted : String} :
    (∃ later, visits = earlier ++ .cycle className dotted :: later) ↔
      ∃ path, Comes metadata frame fields vars earlier path ∧
        path.Returns metadata frame.entered ∧ className = path.field.type ∧
        dotted = Text.joinWith "." (frame.site.path ++ path.names) := by
  constructor
  · rintro ⟨later, met⟩
    exact walked.comes_of_cycle met
  · rintro ⟨path, comes, returns, rfl, rfl⟩
    exact comes.reports returns walked

/-- From an embedded field whose declared type is neither entered nor around, a walk goes on to the
first field of that type, whatever it has visited before. -/
theorem Comes.enters {metadata : Metadata} {frame : Frame} {fields : List FieldDeclaration}
    {vars : Variables} {earlier : List Visit} {path : LeafPath}
    (comes : Comes metadata frame fields vars earlier path) (stored : path.field.Stored)
    {inner : Overrides} (embeds : path.field.embedded = some inner) {decl : ClassDeclaration}
    (declared : metadata.class? path.field.type = some decl)
    (fresh : path.field.type ∉ frame.entered ∧ path.field.type ∉ path.around.map (·.type))
    {first : FieldDeclaration} {others : List FieldDeclaration}
    (holds : decl.fields = first :: others) :
    Comes metadata frame fields vars earlier ⟨path.around ++ [path.field], first⟩ := by
  induction comes with
  | @here _ field _ _ =>
    change Comes metadata _ _ _ _ (LeafPath.beneath field ⟨[], first⟩)
    refine .inside stored embeds declared fresh.1 ?_
    rw [holds]
    exact .here
  | past head _ ih => exact .past head (ih stored embeds declared fresh)
  | @inside frame field _ _ _ _ _ path outerStored outerEmbeds outerDeclared outerFresh _ ih =>
    change Comes metadata _ _ _ _ (LeafPath.beneath field ⟨path.around ++ [path.field], first⟩)
    refine .inside outerStored outerEmbeds outerDeclared outerFresh (ih stored embeds declared ?_)
    obtain ⟨notEntered, notAround⟩ := fresh
    simp only [LeafPath.beneath, List.map_cons, List.mem_cons, not_or] at notEntered notAround
    exact ⟨by simpa using ⟨notAround.1, notEntered⟩, notAround.2⟩

/-- The embedded fields around a field that a walk comes to have declared types, all different and
none of them entered before. -/
theorem Comes.around_types {metadata : Metadata} {frame : Frame} {fields : List FieldDeclaration}
    {vars : Variables} {earlier : List Visit} {path : LeafPath}
    (comes : Comes metadata frame fields vars earlier path) :
    (path.around.map (·.type)).Nodup ∧
      ∀ outer ∈ path.around, outer.type ∉ frame.entered ∧
        outer.type ∈ metadata.classes.map (·.name) := by
  induction comes with
  | here => simp
  | past _ _ ih => exact ih
  | @inside frame field _ _ decl _ _ path _ _ declared fresh _ ih =>
    obtain ⟨distinct, apart⟩ := ih
    refine ⟨List.nodup_cons.mpr ⟨fun member => ?_, distinct⟩,
      List.forall_mem_cons.mpr ⟨⟨fresh, ?_⟩, fun outer member => ?_⟩⟩
    · obtain ⟨outer, inAround, same⟩ := List.mem_map.mp member
      exact (apart outer inAround).1 (by simp [same])
    · obtain ⟨inClasses, named⟩ := Metadata.class?_mem declared
      exact List.mem_map.mpr ⟨decl, inClasses, named⟩
    · exact ⟨fun old => (apart outer member).1 (by simp [old]), (apart outer member).2⟩

/-- A walk of a declared class goes less deep than there are declared classes. -/
theorem Comes.depth_lt {metadata : Metadata} {level root : ClassDeclaration} {vars : Variables}
    {earlier : List Visit} {path : LeafPath} (declared : level ∈ metadata.classes)
    (comes : Comes metadata (levelFrame level root) level.fields vars earlier path) :
    path.around.length < metadata.classes.length := by
  obtain ⟨distinct, apart⟩ := comes.around_types
  have entered : (level.name :: path.around.map (·.type)).Nodup := by
    refine List.nodup_cons.mpr ⟨fun member => ?_, distinct⟩
    obtain ⟨outer, inAround, same⟩ := List.mem_map.mp member
    exact (apart outer inAround).1 (by simp [levelFrame, same])
  have known : level.name :: path.around.map (·.type) ⊆ metadata.classes.map (·.name) := by
    intro name member
    rcases List.mem_cons.mp member with rfl | inAround
    · exact List.mem_map_of_mem declared
    · obtain ⟨outer, inside, same⟩ := List.mem_map.mp inAround
      exact same ▸ (apart outer inside).2
  have shorter := (List.subperm_of_subset entered known).length_le
  simp only [List.length_cons, List.length_map] at shorter
  omega

end EntityMapper
