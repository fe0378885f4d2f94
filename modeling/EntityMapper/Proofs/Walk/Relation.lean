import EntityMapper.Extraction.Walk

/-!
# The walk by its rules

`Walked` says which visits a walk makes, one rule for each way a field can go, and knows no
budget. Every level of embedding enters one more declared class, so a budget above the number
of declared classes not yet entered is never used up (`walk_walked`), whatever cycles the
embeddings form. Properties of the walk are proved by induction on `Walked`.
-/
namespace EntityMapper

/-- Neither static nor transient. -/
def FieldDeclaration.Stored (field : FieldDeclaration) : Prop :=
  field.isStatic = false ∧ field.isTransient = false

instance (field : FieldDeclaration) : Decidable field.Stored :=
  inferInstanceAs (Decidable (_ ∧ _))

/-- How many declared classes have not been entered. -/
def Metadata.unentered (metadata : Metadata) (entered : List String) : Nat :=
  (metadata.classes.filter (·.name ∉ entered)).length

theorem Metadata.class?_mem {metadata : Metadata} {name : String} {decl : ClassDeclaration}
    (declared : metadata.class? name = some decl) : decl ∈ metadata.classes ∧ decl.name = name := by
  refine ⟨List.mem_of_find?_eq_some declared, ?_⟩
  simpa using List.find?_some declared

/-- Entering a declared class leaves fewer to enter. -/
theorem Metadata.unentered_cons_lt {metadata : Metadata} {name : String} {decl : ClassDeclaration}
    {entered : List String} (declared : metadata.class? name = some decl)
    (fresh : name ∉ entered) : metadata.unentered (name :: entered) < metadata.unentered entered := by
  obtain ⟨member, named⟩ := Metadata.class?_mem declared
  have narrowed : metadata.classes.filter (·.name ∉ name :: entered) =
      (metadata.classes.filter (·.name ∉ entered)).filter (·.name ≠ name) := by
    simp [List.filter_filter, not_or]
  rw [Metadata.unentered, Metadata.unentered, narrowed, List.length_filter_lt_length_iff_exists]
  exact ⟨decl, by simp [member, named, fresh], by simp [named]⟩

theorem Metadata.unentered_le (metadata : Metadata) (entered : List String) :
    metadata.unentered entered ≤ metadata.classes.length :=
  List.length_filter_le _ _

/-- The frame that a walk opens for an embedded field when `vars` are the variables so far. -/
def Frame.within (frame : Frame) (field : FieldDeclaration) (inner : Overrides)
    (decl : ClassDeclaration) (vars : Variables) : Frame :=
  frame.embed field inner decl (vars.allocate field.type).1
    (embeddedFragment field (mergedOverride frame.layers (FieldPath.names ⟨frame.site, field⟩)))

@[simp] theorem Frame.within_path (frame : Frame) (field : FieldDeclaration) (inner : Overrides)
    (decl : ClassDeclaration) (vars : Variables) :
    (frame.within field inner decl vars).site.path = frame.site.path ++ [field.name] := rfl

@[simp] theorem Frame.within_entered (frame : Frame) (field : FieldDeclaration) (inner : Overrides)
    (decl : ClassDeclaration) (vars : Variables) :
    (frame.within field inner decl vars).entered = field.type :: frame.entered := rfl

/-- Walking `fields` in a frame from the first variables makes the visits and leaves the last
variables. -/
inductive Walked (metadata : Metadata) :
    Frame → List FieldDeclaration → Variables → List Visit → Variables → Prop where
  | done (frame : Frame) (vars : Variables) : Walked metadata frame [] vars [] vars
  | dropped {frame : Frame} {field : FieldDeclaration} {rest : List FieldDeclaration}
      {vars after : Variables} {visits : List Visit} (unstored : ¬ field.Stored)
      (others : Walked metadata frame rest vars visits after) :
      Walked metadata frame (field :: rest) vars visits after
  | leaf {frame : Frame} {field : FieldDeclaration} {rest : List FieldDeclaration}
      {vars after : Variables} {visits : List Visit} (stored : field.Stored)
      (plain : field.embedded = none) (others : Walked metadata frame rest vars visits after) :
      Walked metadata frame (field :: rest) vars
        (.leaf ⟨frame.site, field⟩
          (mergedOverride frame.layers (FieldPath.names ⟨frame.site, field⟩)) :: visits) after
  | unknown {frame : Frame} {field : FieldDeclaration} {rest : List FieldDeclaration}
      {inner : Overrides} {vars after : Variables} {visits : List Visit} (stored : field.Stored)
      (embeds : field.embedded = some inner) (missing : metadata.class? field.type = none)
      (others : Walked metadata frame rest vars visits after) :
      Walked metadata frame (field :: rest) vars
        (.unknownClass field.type (frame.owner ++ "." ++ field.name) :: visits) after
  | cycle {frame : Frame} {field : FieldDeclaration} {rest : List FieldDeclaration}
      {inner : Overrides} {decl : ClassDeclaration} {vars after : Variables} {visits : List Visit}
      (stored : field.Stored) (embeds : field.embedded = some inner)
      (declared : metadata.class? field.type = some decl) (again : field.type ∈ frame.entered)
      (others : Walked metadata frame rest vars visits after) :
      Walked metadata frame (field :: rest) vars
        (.cycle field.type (FieldPath.dotted ⟨frame.site, field⟩) :: visits) after
  | inside {frame : Frame} {field : FieldDeclaration} {rest : List FieldDeclaration}
      {inner : Overrides} {decl : ClassDeclaration} {vars middle after : Variables}
      {nested visits : List Visit} (stored : field.Stored) (embeds : field.embedded = some inner)
      (declared : metadata.class? field.type = some decl) (fresh : field.type ∉ frame.entered)
      (body : Walked metadata (frame.within field inner decl vars) decl.fields
        (vars.allocate field.type).2 nested middle)
      (others : Walked metadata frame rest middle visits after) :
      Walked metadata frame (field :: rest) vars (nested ++ visits) after

/-- The rules leave a walk no choice. -/
theorem Walked.unique {metadata : Metadata} {frame : Frame} {fields : List FieldDeclaration}
    {vars after other : Variables} {visits others : List Visit}
    (walked : Walked metadata frame fields vars visits after)
    (again : Walked metadata frame fields vars others other) : visits = others ∧ after = other := by
  induction walked generalizing others other with
  | done frame vars =>
    cases again
    exact ⟨rfl, rfl⟩
  | dropped unstored _ ih =>
    cases again with
    | dropped _ rest => exact ih rest
    | leaf stored _ _ | unknown stored _ _ _ | cycle stored _ _ _ _ | inside stored _ _ _ _ _ =>
      exact absurd stored unstored
  | leaf stored plain _ ih =>
    cases again with
    | dropped unstored _ => exact absurd stored unstored
    | leaf _ _ rest => exact (ih rest).imp (congrArg _) id
    | unknown _ embeds _ _ | cycle _ embeds _ _ _ | inside _ embeds _ _ _ _ =>
      cases plain.symm.trans embeds
  | unknown stored embeds missing _ ih =>
    cases again with
    | dropped unstored _ => exact absurd stored unstored
    | leaf _ plain _ => cases plain.symm.trans embeds
    | unknown _ _ _ rest => exact (ih rest).imp (congrArg _) id
    | cycle _ _ declared _ _ | inside _ _ declared _ _ _ => cases missing.symm.trans declared
  | cycle stored embeds declared entered _ ih =>
    cases again with
    | dropped unstored _ => exact absurd stored unstored
    | leaf _ plain _ => cases plain.symm.trans embeds
    | unknown _ _ missing _ => cases missing.symm.trans declared
    | cycle _ _ _ _ rest => exact (ih rest).imp (congrArg _) id
    | inside _ _ _ fresh _ _ => exact absurd entered fresh
  | inside stored embeds declared fresh _ _ ihBody ihOthers =>
    cases again with
    | dropped unstored _ => exact absurd stored unstored
    | leaf _ plain _ => cases plain.symm.trans embeds
    | unknown _ _ missing _ => cases missing.symm.trans declared
    | cycle _ _ _ entered _ => exact absurd entered fresh
    | inside _ embedsAgain declaredAgain _ body rest =>
      cases embeds.symm.trans embedsAgain
      cases declared.symm.trans declaredAgain
      obtain ⟨rfl, rfl⟩ := ihBody body
      obtain ⟨rfl, rfl⟩ := ihOthers rest
      exact ⟨rfl, rfl⟩

/-- The fields of a frame are walked by the rules when `descend` walks the classes that the
frame may enter. -/
theorem visitFields_walked {metadata : Metadata} {descend : Frame → Variables → List Visit × Variables}
    {frame : Frame}
    (descends : ∀ (field : FieldDeclaration) (inner : Overrides) (decl : ClassDeclaration)
      (vars : Variables), metadata.class? field.type = some decl → field.type ∉ frame.entered →
      let next := frame.within field inner decl vars
      let result := descend next (vars.allocate field.type).2
      Walked metadata next decl.fields (vars.allocate field.type).2 result.1 result.2)
    (fields : List FieldDeclaration) (vars : Variables) :
    Walked metadata frame fields vars
      (visitFields (visitField metadata descend frame) fields vars).1
      (visitFields (visitField metadata descend frame) fields vars).2 := by
  induction fields generalizing vars with
  | nil => exact .done frame vars
  | cons field rest ih =>
    simp only [visitFields]
    by_cases stored : field.Stored
    · have kept : (field.isStatic || field.isTransient) = false := by
        simp [stored.1, stored.2]
      cases embeds : field.embedded with
      | none =>
        simp only [visitField, kept, embeds, Bool.false_eq_true, if_false, List.cons_append,
          List.nil_append]
        exact .leaf stored embeds (ih vars)
      | some inner =>
        cases declared : metadata.class? field.type with
        | none =>
          simp only [visitField, kept, embeds, declared, Bool.false_eq_true, if_false,
            List.cons_append, List.nil_append]
          exact .unknown stored embeds declared (ih vars)
        | some decl =>
          by_cases again : field.type ∈ frame.entered
          · simp only [visitField, kept, embeds, declared, again, Bool.false_eq_true, if_false,
              if_true, List.cons_append, List.nil_append]
            exact .cycle stored embeds declared again (ih vars)
          · simp only [visitField, kept, embeds, declared, again, Bool.false_eq_true, if_false]
            exact .inside stored embeds declared again (descends field inner decl vars declared again)
              (ih _)
    · have dropped : (field.isStatic || field.isTransient) = true := by
        simp only [FieldDeclaration.Stored, not_and] at stored
        cases static : field.isStatic <;> simp_all
      simp only [visitField, dropped, if_true, List.nil_append]
      exact .dropped stored (ih vars)

/-- A budget above the number of classes not yet entered is enough. -/
theorem walk_walked (metadata : Metadata) (budget : Nat) (frame : Frame) (vars : Variables)
    (enough : metadata.unentered frame.entered < budget) :
    Walked metadata frame frame.fields vars (walk metadata budget frame vars).1
      (walk metadata budget frame vars).2 := by
  induction budget generalizing frame vars with
  | zero => omega
  | succ budget ih =>
    rw [walk]
    refine visitFields_walked (fun field inner decl vars declared fresh => ?_) frame.fields vars
    have fewer := Metadata.unentered_cons_lt declared fresh
    exact ih (frame.within field inner decl vars) (vars.allocate field.type).2
      (by simp only [Frame.within, Frame.embed]; omega)

/-- The walk of a level runs by the rules. -/
theorem walk_level_walked (metadata : Metadata) (level root : ClassDeclaration)
    (vars : Variables) :
    Walked metadata (levelFrame level root) level.fields vars
      (walk metadata metadata.walkBudget (levelFrame level root) vars).1
      (walk metadata metadata.walkBudget (levelFrame level root) vars).2 :=
  walk_walked metadata metadata.walkBudget (levelFrame level root) vars
    (Nat.lt_succ_of_le (metadata.unentered_le _))

end EntityMapper
