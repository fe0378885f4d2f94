import EntityMapper.Proofs.Walk.Levels
import Mathlib.Data.List.Forall2

/-!
# Walks of rearranged classes

Metadata is rearranged when the fields of its classes stand in another order. Lookups and levels give
the same classes then, up to the order of their fields, and a walk makes the same visits in another
order and with variables that are numbered otherwise (`walk_rearranged`).
-/
namespace EntityMapper

/-- The same declaration with its fields in another order. -/
structure ClassDeclaration.Rearranged (decl other : ClassDeclaration) : Prop where
  fields : decl.fields.Perm other.fields
  rest : other = { decl with fields := other.fields }

namespace ClassDeclaration.Rearranged

variable {decl other : ClassDeclaration}

theorem refl (decl : ClassDeclaration) : decl.Rearranged decl :=
  ⟨.refl _, rfl⟩

theorem symm (same : decl.Rearranged other) : other.Rearranged decl := by
  obtain ⟨fields, rest⟩ := same
  refine ⟨fields.symm, ?_⟩
  rw [rest]

theorem name (same : decl.Rearranged other) : other.name = decl.name := by
  rw [same.rest]

theorem overrides (same : decl.Rearranged other) : other.overrides = decl.overrides := by
  rw [same.rest]

theorem superclass (same : decl.Rearranged other) : other.superclass = decl.superclass := by
  rw [same.rest]

theorem kind (same : decl.Rearranged other) : other.kind = decl.kind := by
  rw [same.rest]

end ClassDeclaration.Rearranged

/-- The same classes, each with its fields in any order, and the same converters. -/
structure Metadata.Rearranged (metadata other : Metadata) : Prop where
  classes : List.Forall₂ ClassDeclaration.Rearranged metadata.classes other.classes
  converters : metadata.converters = other.converters

namespace Metadata.Rearranged

variable {metadata other : Metadata}

theorem symm (same : metadata.Rearranged other) : other.Rearranged metadata := by
  refine ⟨?_, same.converters.symm⟩
  exact (same.classes.imp fun _ _ alike => alike.symm).flip

theorem walkBudget (same : metadata.Rearranged other) : metadata.walkBudget = other.walkBudget := by
  unfold Metadata.walkBudget
  rw [same.classes.length_eq]

/-- A name finds the same class in both, or in neither. -/
theorem class? (same : metadata.Rearranged other) (name : String) :
    (metadata.class? name = none ∧ other.class? name = none) ∨
      ∃ decl again, metadata.class? name = some decl ∧ other.class? name = some again ∧
        decl.Rearranged again := by
  have classes := same.classes
  unfold Metadata.class?
  generalize metadata.classes = mine at classes
  generalize other.classes = theirs at classes
  induction classes with
  | nil => exact .inl ⟨rfl, rfl⟩
  | @cons decl again rest others alike _ ih =>
    rw [List.find?_cons, List.find?_cons, alike.name]
    cases decl.name == name with
    | true => exact .inr ⟨decl, again, rfl, rfl, alike⟩
    | false => exact ih

theorem isEnum (same : metadata.Rearranged other) (type : String) :
    metadata.isEnum type = other.isEnum type := by
  unfold Metadata.isEnum
  rcases same.class? type with ⟨mine, theirs⟩ | ⟨decl, again, mine, theirs, alike⟩
  · rw [mine, theirs]
  · rw [mine, theirs, Option.any_some, Option.any_some, alike.kind]

theorem lineageFrom (same : metadata.Rearranged other) (budget : Nat) (visited : List String)
    {decl again : ClassDeclaration} (alike : decl.Rearranged again) :
    List.Forall₂ ClassDeclaration.Rearranged (lineageFrom metadata budget visited decl)
      (lineageFrom other budget visited again) := by
  induction budget generalizing visited decl again with
  | zero => exact .nil
  | succ budget ih =>
    unfold EntityMapper.lineageFrom
    rw [alike.name, alike.superclass]
    by_cases known : decl.name ∈ visited
    · rw [if_pos known, if_pos known]
      exact .nil
    · rw [if_neg known, if_neg known]
      refine .cons alike ?_
      cases decl.superclass with
      | none => exact .nil
      | some name =>
        simp only [Option.bind_some]
        rcases same.class? name with ⟨mine, theirs⟩ | ⟨parent, parentAgain, mine, theirs, parents⟩
        · rw [mine, theirs]
          exact .nil
        · rw [mine, theirs]
          exact ih (decl.name :: visited) parents

theorem lineage (same : metadata.Rearranged other) {decl again : ClassDeclaration}
    (alike : decl.Rearranged again) (inheritance : Bool) :
    List.Forall₂ ClassDeclaration.Rearranged (lineage metadata decl inheritance)
      (lineage other again inheritance) := by
  unfold EntityMapper.lineage
  cases inheritance with
  | false => exact .cons alike .nil
  | true =>
    rw [if_pos rfl, if_pos rfl, same.walkBudget]
    exact same.lineageFrom _ [] alike

end Metadata.Rearranged

/-- The embedded field without the number of its variable. -/
def Embedding.unnumbered (embedding : Embedding) : Embedding :=
  { embedding with varName := Java.decapitalize (Java.simpleName embedding.typeName) }

def Site.unnumbered (site : Site) : Site :=
  { site with parents := site.parents.map Embedding.unnumbered }

def Visit.unnumbered : Visit → Visit
  | .leaf path overrides => .leaf ⟨path.site.unnumbered, path.field⟩ overrides
  | visit => visit

theorem Site.unnumbered_inside (site : Site) (embedding : Embedding) (fragment : String) :
    (site.inside embedding fragment).unnumbered =
      site.unnumbered.inside embedding.unnumbered fragment := by
  simp [unnumbered, inside, Embedding.unnumbered]

/-- Frames of the same fields in any order, at one site but for the numbers of variables. -/
structure Frame.Rearranged (frame other : Frame) : Prop where
  owner : frame.owner = other.owner
  site : frame.site.unnumbered = other.site.unnumbered
  layers : frame.layers = other.layers
  entered : frame.entered = other.entered
  fields : frame.fields.Perm other.fields

theorem Frame.Rearranged.path {frame other : Frame} (same : frame.Rearranged other) :
    frame.site.path = other.site.path := by
  simpa [Site.unnumbered] using congrArg Site.path same.site

theorem Frame.Rearranged.embed {frame other : Frame} (same : frame.Rearranged other)
    (field : FieldDeclaration) (inner : Overrides) {decl again : ClassDeclaration}
    (alike : decl.Rearranged again) (first second fragment : String) :
    (frame.embed field inner decl first fragment).Rearranged
      (other.embed field inner again second fragment) := by
  constructor
  · exact alike.name.symm
  · simp only [Frame.embed, Site.unnumbered_inside, same.site, Embedding.unnumbered]
  · simp only [Frame.embed, same.layers, same.path]
  · simp only [Frame.embed, same.entered]
  · exact alike.fields

theorem Frame.Rearranged.level {level again root other : ClassDeclaration}
    (levels : level.Rearranged again) (roots : root.Rearranged other) :
    (levelFrame level root).Rearranged (levelFrame again other) := by
  refine ⟨levels.name.symm, rfl, ?_, ?_, levels.fields⟩
  · simp only [levelFrame, levels.name, roots.name, levels.overrides, roots.overrides]
  · simp only [levelFrame, levels.name]

/-- Visits in any order that differ in the numbers of variables only. -/
def VisitsAlike (visits others : List Visit) : Prop :=
  (visits.map Visit.unnumbered).Perm (others.map Visit.unnumbered)

/-- Visits of several fields are those of each, whatever variables it starts from. -/
theorem visitFields_perm {visit : FieldDeclaration → Variables → List Visit × Variables}
    {shown : FieldDeclaration → List Visit}
    (shows : ∀ field vars, VisitsAlike (visit field vars).1 (shown field))
    (fields : List FieldDeclaration) (vars : Variables) :
    VisitsAlike (visitFields visit fields vars).1 (fields.flatMap shown) := by
  induction fields generalizing vars with
  | nil => exact .refl _
  | cons field rest ih =>
    unfold visitFields VisitsAlike
    rw [List.flatMap_cons, List.map_append, List.map_append]
    exact (shows field vars).append (ih _)

/-- The order of fields decides nothing but the order of visits. -/
theorem visitFields_rearranged
    {visit again : FieldDeclaration → Variables → List Visit × Variables}
    (alike : ∀ field first second, VisitsAlike (visit field first).1 (again field second).1)
    {fields others : List FieldDeclaration} (same : fields.Perm others) (first second : Variables) :
    VisitsAlike (visitFields visit fields first).1 (visitFields again others second).1 := by
  have shown := visitFields_perm (fun field vars => alike field vars {}) fields first
  have shownAgain : VisitsAlike (visitFields again others second).1
      (others.flatMap fun field => (again field {}).1) :=
    visitFields_perm (fun field vars => (alike field {} vars).symm.trans (alike field {} {}))
      others second
  have moved := (same.flatMap_right fun field => (again field {}).1).map Visit.unnumbered
  exact (shown.trans moved).trans shownAgain.symm

section Walk

variable {metadata other : Metadata} (same : metadata.Rearranged other)

include same

theorem visitField_rearranged {descend again : Frame → Variables → List Visit × Variables}
    (descends : ∀ frame otherFrame, frame.Rearranged otherFrame → ∀ first second,
      VisitsAlike (descend frame first).1 (again otherFrame second).1)
    {frame otherFrame : Frame} (frames : frame.Rearranged otherFrame) (field : FieldDeclaration)
    (first second : Variables) :
    VisitsAlike (visitField metadata descend frame field first).1
      (visitField other again otherFrame field second).1 := by
  have names : FieldPath.names ⟨frame.site, field⟩ = FieldPath.names ⟨otherFrame.site, field⟩ := by
    simp only [FieldPath.names, frames.path]
  unfold visitField
  by_cases dropped : (field.isStatic || field.isTransient) = true
  · rw [if_pos dropped, if_pos dropped]
    exact .refl _
  · rw [if_neg dropped, if_neg dropped]
    simp only [names, FieldPath.dotted, frames.layers, frames.entered, frames.owner]
    cases field.embedded with
    | none => simp [VisitsAlike, Visit.unnumbered, frames.site]
    | some inner =>
      rcases same.class? field.type with ⟨mine, theirs⟩ | ⟨decl, declAgain, mine, theirs, alike⟩
      · rw [mine, theirs]
        exact .refl _
      · rw [mine, theirs]
        by_cases entered : field.type ∈ otherFrame.entered
        · simp only [if_pos entered]
          exact .refl _
        · simp only [if_neg entered]
          exact descends _ _ (frames.embed field inner alike _ _ _) _ _

/-- Rearranged metadata gives the same visits, in any order and numbered otherwise. -/
theorem walk_rearranged (budget : Nat) {frame otherFrame : Frame}
    (frames : frame.Rearranged otherFrame) (first second : Variables) :
    VisitsAlike (walk metadata budget frame first).1 (walk other budget otherFrame second).1 := by
  induction budget generalizing frame otherFrame first second with
  | zero => exact .refl _
  | succ budget ih =>
    unfold walk
    exact visitFields_rearranged
      (visitField_rearranged same (fun _ _ alike => ih alike) frames) frames.fields first second

/-- Each level has the same visits. -/
theorem walkLevels_rearranged {root again : ClassDeclaration} (roots : root.Rearranged again)
    {levels others : List ClassDeclaration}
    (alike : List.Forall₂ ClassDeclaration.Rearranged levels others) (first second : Variables) :
    List.Forall₂ VisitsAlike (walkLevels metadata root levels first)
      (walkLevels other again others second) := by
  induction alike generalizing first second with
  | nil => exact .nil
  | cons level _ ih =>
    unfold walkLevels
    rw [same.walkBudget]
    exact .cons (walk_rearranged same other.walkBudget (.level level roots) first second) (ih _ _)

end Walk

end EntityMapper
