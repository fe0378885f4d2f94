import EntityMapper.Proofs.Mapper.Grouping
import EntityMapper.Proofs.Walk.Leaves
import EntityMapper.Proofs.Walk.Levels
import EntityMapper.Proofs.Walk.Variables

/-!
# The instances that a walk enters

A walk hands out one variable for each embedded field it enters, and every instance on the way to a
leaf has been entered (`Walked.enters`). The levels of a table draw on the same variables, so the
instances of all levels have variables of their own when these are apart
(`WalkedLevels.enters`, `Handed.nodup`).
-/
namespace EntityMapper

/-- The embedded fields have the variables that are handed out for their types in turn. -/
structure Handed (vars : Variables) (fields : List Embedding) (after : Variables) : Prop where
  names : fields.map (·.varName) = vars.allocateAll (fields.map (·.typeName))
  rest : after = vars.after (fields.map (·.typeName))

theorem Handed.nil (vars : Variables) : Handed vars [] vars :=
  ⟨rfl, rfl⟩

theorem Handed.single (vars : Variables) (fieldName typeName : String) :
    Handed vars [⟨fieldName, typeName, (vars.allocate typeName).1⟩] (vars.allocate typeName).2 :=
  ⟨rfl, rfl⟩

theorem Handed.append {vars middle after : Variables} {first second : List Embedding}
    (before : Handed vars first middle) (later : Handed middle second after) :
    Handed vars (first ++ second) after := by
  obtain ⟨names, rfl⟩ := before
  obtain ⟨others, rfl⟩ := later
  refine ⟨?_, ?_⟩
  · rw [List.map_append, List.map_append, Variables.allocateAll_append, names, others]
  · rw [List.map_append, Variables.after, Variables.after, Variables.after, List.foldl_append]

/-- Fields whose base names are apart have variables of their own. -/
theorem Handed.nodup {fields : List Embedding} {after : Variables} (handed : Handed {} fields after)
    (apart : Variables.Apart after.taken) : (fields.map (·.varName)).Nodup := by
  rw [handed.names, Variables.nodup_allocateAll]
  rw [handed.rest, Variables.after_taken, List.append_nil,
    Variables.apart_perm (List.reverse_perm _)] at apart
  exact apart

/-- Fields of one type have different variables, whatever their base names. -/
theorem Handed.nodup_typed {vars after : Variables} {fields : List Embedding}
    (handed : Handed vars fields after) :
    (fields.map fun field => (field.typeName, field.varName)).Nodup := by
  rw [← List.zip_map', handed.names]
  exact Variables.nodup_zip_allocateAll _ vars

/-- The variable of a field is the base name of its type with a number. -/
theorem Handed.exists_number {vars after : Variables} {fields : List Embedding}
    (handed : Handed vars fields after) {field : Embedding} (member : field ∈ fields) :
    ∃ number, field.varName = Variables.named (Variables.base field.typeName, number) := by
  have numbered := Variables.allocateAll_numbered (fields.map (·.typeName)) vars
  rw [← handed.names, List.forall₂_map_left_iff, List.forall₂_map_right_iff,
    List.forall₂_same] at numbered
  exact numbered field member

theorem Handed.exists_named {vars after : Variables} {fields : List Embedding}
    (handed : Handed vars fields after) {field : Embedding} (member : field ∈ fields) :
    ∃ entry, field.varName = Variables.named entry := by
  obtain ⟨number, named⟩ := handed.exists_number member
  exact ⟨_, named⟩

/-- The fields that a walk enters are handed their variables in turn, and every instance between the
frame and a leaf is entered. -/
theorem Walked.enters {metadata : Metadata} {frame : Frame} {fields : List FieldDeclaration}
    {vars after : Variables} {visits : List Visit}
    (walked : Walked metadata frame fields vars visits after) :
    ∃ entered : List Instance, Handed vars (entered.map (·.field)) after ∧
      ∀ path overrides, Visit.leaf path overrides ∈ visits →
        ∀ below, path.site.parents = frame.site.parents ++ below →
          ∀ inst ∈ Instance.along frame.site.parents below, inst ∈ entered := by
  induction walked with
  | done frame vars => exact ⟨[], .nil vars, by simp⟩
  | dropped _ _ ih => exact ih
  | leaf _ _ _ ih =>
    obtain ⟨entered, handed, reached⟩ := ih
    refine ⟨entered, handed, fun path overrides visited below parents inst along => ?_⟩
    rcases List.mem_cons.mp visited with head | tail
    · cases head
      rw [List.self_eq_append_right.mp parents] at along
      cases along
    · exact reached path overrides tail below parents inst along
  | unknown _ _ _ _ ih | cycle _ _ _ _ _ ih =>
    obtain ⟨entered, handed, reached⟩ := ih
    refine ⟨entered, handed, fun path overrides visited => ?_⟩
    exact reached path overrides ((List.mem_cons.mp visited).resolve_left (by simp))
  | @inside frame field rest inner decl vars middle after nested visits _ _ _ _ body _ ihBody
      ihOthers =>
    obtain ⟨within, handedWithin, reachedWithin⟩ := ihBody
    obtain ⟨others, handedOthers, reached⟩ := ihOthers
    let own : Embedding := ⟨field.name, field.type, (vars.allocate field.type).1⟩
    refine ⟨⟨frame.site.parents, own⟩ :: (within ++ others), ?_,
      fun path overrides visited below parents inst along => ?_⟩
    · rw [List.map_cons, List.map_append]
      exact (Handed.single vars field.name field.type).append (handedWithin.append handedOthers)
    · rcases List.mem_append.mp visited with inBody | tail
      · -- The way to a leaf of the class goes on from the field.
        obtain ⟨deeper, way⟩ := (body.liesIn inBody).1
        have through : below = own :: deeper := by
          rw [← way] at parents
          simpa [Frame.within, Frame.embed, Site.inside, own] using parents.symm
        rw [through, Instance.along, List.mem_cons] at along
        rcases along with rfl | further
        · exact List.mem_cons_self
        · refine List.mem_cons_of_mem _ (List.mem_append_left _ ?_)
          exact reachedWithin path overrides inBody deeper way.symm inst further
      · refine List.mem_cons_of_mem _ (List.mem_append_right _ ?_)
        exact reached path overrides tail below parents inst along

/-- The fields that all levels enter are handed their variables in turn, and every instance on the
way to a leaf is entered at the level of the leaf. -/
theorem WalkedLevels.enters {metadata : Metadata} {root : ClassDeclaration}
    {levels : List ClassDeclaration} {vars after : Variables} {visits : List (List Visit)}
    (walked : WalkedLevels metadata root levels vars visits after) :
    ∃ entered : List (ClassDeclaration × Instance), Handed vars (entered.map (·.2.field)) after ∧
      ∀ level seen, (level, seen) ∈ levels.zip visits →
        ∀ path overrides, Visit.leaf path overrides ∈ seen →
          ∀ inst : Instance, inst.chain <+: path.site.parents → (level, inst) ∈ entered := by
  induction walked with
  | done vars => exact ⟨[], .nil vars, by simp⟩
  | @level level rest vars middle after visits above walked _ ih =>
    obtain ⟨own, handedOwn, reachedOwn⟩ := walked.enters
    obtain ⟨others, handed, reached⟩ := ih
    refine ⟨own.map (level, ·) ++ others, ?_,
      fun other seen paired path overrides visited inst within => ?_⟩
    · rw [List.map_append, List.map_map]
      exact handedOwn.append handed
    · rw [List.zip_cons_cons, List.mem_cons, Prod.mk.injEq] at paired
      rcases paired with ⟨rfl, rfl⟩ | later
      · refine List.mem_append_left _ (List.mem_map_of_mem ?_)
        exact reachedOwn path overrides visited path.site.parents rfl inst
          (Instance.mem_along.mpr ⟨Nat.zero_le _, within⟩)
      · exact List.mem_append_right _ (reached other seen later path overrides visited inst within)

end EntityMapper
