import EntityMapper.Proofs.Extraction.Rearranged
import EntityMapper.Proofs.Metadata.Registration

/-!
# Metadata that answer alike

Extraction asks its metadata for the classes and, by name, for a class, an enum or a converter. What
else the metadata hold, such as the order of converters or one shadowed by another, has no influence:
metadata that give the same answers lead to the same visits (`walkLevels_alike`), the same columns
(`ofLevels_congr`) and the same tables, scopes and schemas, or to the same error
(`AnswersAlike.sameExtraction`). So a registry can stand in for the manifest of what is left in it, and
the manifest for the registry (`registry_interchangeable`).
-/
namespace EntityMapper

/-- Two metadata that no question tells apart. -/
structure Metadata.AnswersAlike (metadata other : Metadata) : Prop where
  classes : metadata.classes = other.classes
  converter? : ∀ name, metadata.converter? name = other.converter? name

/-- Nothing that is extracted from the two mappings differs, nor the error where there is one. -/
structure Mapping.SameExtraction (mapping other : Mapping) : Prop where
  tables : mapping.tables = other.tables
  table? : ∀ className, mapping.table? className = other.table? className
  tableScope? : ∀ className, mapping.tableScope? className = other.tableScope? className
  schemas : mapping.schemas = other.schemas

section Walk

variable {metadata other : Metadata} (alike : metadata.AnswersAlike other)

include alike

theorem Metadata.AnswersAlike.class? (name : String) : metadata.class? name = other.class? name := by
  unfold Metadata.class?
  rw [alike.classes]

theorem Metadata.AnswersAlike.isEnum (type : String) : metadata.isEnum type = other.isEnum type := by
  unfold Metadata.isEnum
  rw [alike.class?]

theorem Metadata.AnswersAlike.walkBudget : metadata.walkBudget = other.walkBudget := by
  unfold Metadata.walkBudget
  rw [alike.classes]

/-- Opening an embedded class asks for no more than that class. -/
theorem walk_alike (budget : Nat) : walk metadata budget = walk other budget := by
  induction budget with
  | zero => rfl
  | succ budget ih =>
    have visited (frame : Frame) :
        visitField metadata (walk metadata budget) frame =
          visitField other (walk other budget) frame := by
      funext field vars
      unfold visitField
      rw [ih, alike.class?]
    funext frame vars
    rw [walk, walk, visited]

theorem lineageFrom_alike (budget : Nat) (visited : List String) (decl : ClassDeclaration) :
    lineageFrom metadata budget visited decl = lineageFrom other budget visited decl := by
  have found : metadata.class? = other.class? := funext alike.class?
  induction budget generalizing visited decl with
  | zero => rfl
  | succ budget ih =>
    unfold lineageFrom
    simp only [found, ih]

theorem lineage_alike (decl : ClassDeclaration) (inheritance : Bool) :
    lineage metadata decl inheritance = lineage other decl inheritance := by
  unfold lineage
  rw [lineageFrom_alike alike, alike.walkBudget]

theorem walkLevels_alike (root : ClassDeclaration) (levels : List ClassDeclaration)
    (vars : Variables) :
    walkLevels metadata root levels vars = walkLevels other root levels vars := by
  induction levels generalizing vars with
  | nil => rfl
  | cons level rest ih =>
    unfold walkLevels
    rw [alike.walkBudget, walk_alike alike]
    exact congrArg _ (ih _)

end Walk

namespace ColumnFrame

section Congr

variable {frame other : ColumnFrame} (built : ∀ visit, frame.ofVisit visit = other.ofVisit visit)

include built

theorem ofVisits_congr (visits : List Visit) : frame.ofVisits visits = other.ofVisits visits := by
  induction visits with
  | nil => rfl
  | cons visit rest ih => rw [ofVisits, ofVisits, built, ih]

/-- Levels are joined from columns that are built one by one. -/
theorem ofLevels_congr (named : frame.table = other.table) (columns : List Column)
    (levels : List (List Visit)) :
    frame.ofLevels columns levels = other.ofLevels columns levels := by
  have level (visits : List Visit) : frame.ofLevel visits = other.ofLevel visits := by
    rw [ofLevel, ofLevel, ofVisits_congr built, named]
  induction levels generalizing columns with
  | nil => rfl
  | cons visits rest ih => simp only [ofLevels, level, ih]

end Congr

end ColumnFrame

/-- A schema takes of the metadata only the class that it is the schema of. -/
theorem Mapping.schemasIn_withMetadata (mapping : Mapping) (other : Metadata) (base : Scope)
    (classes : List ClassDeclaration) :
    mapping.schemasIn base classes = (mapping.withMetadata other).schemasIn base classes := by
  induction classes with
  | nil => rfl
  | cons decl rest ih =>
    unfold schemasIn
    rw [ih]
    rfl

namespace Metadata.AnswersAlike

variable {mapping : Mapping} {other : Metadata} (alike : mapping.metadata.AnswersAlike other)

include alike

theorem buildIn (decl : ClassDeclaration) (options : TableOptions) (parent : Scope) :
    mapping.buildIn decl options parent =
      (mapping.withMetadata other).buildIn decl options parent := by
  have visits : walkLevels mapping.metadata decl
      (lineage mapping.metadata decl options.inheritance) {} =
        walkLevels other decl (lineage other decl options.inheritance) {} := by
    rw [lineage_alike alike, walkLevels_alike alike]
  have columns (placed : TableScope) (levels : List (List Visit)) :
      (mapping.columnFrame parent placed).ofLevels [] levels =
        ((mapping.withMetadata other).columnFrame parent placed).ofLevels [] levels :=
    ColumnFrame.ofLevels_congr (fun visit => (Mapping.ofVisit_withMetadata alike.isEnum
      alike.converter? parent placed visit).symm) rfl [] levels
  simp only [Mapping.buildIn_eq, visits, columns]
  rfl

theorem tablesIn (base : Scope) (classes : List ClassDeclaration) :
    mapping.tablesIn base classes = (mapping.withMetadata other).tablesIn base classes := by
  induction classes with
  | nil => rfl
  | cons decl rest ih => simp only [Mapping.tablesIn, alike.buildIn, ih]

theorem tables : mapping.tables = (mapping.withMetadata other).tables := by
  simp only [Mapping.tables, alike.tablesIn, alike.classes]
  rfl

theorem table? (className : String) :
    mapping.table? className = (mapping.withMetadata other).table? className := by
  have found : mapping.buildableClass? className =
      (mapping.withMetadata other).buildableClass? className := by
    unfold Mapping.buildableClass?
    rw [alike.class?]
    rfl
  simp only [Mapping.table?, found, alike.buildIn]
  rfl

theorem tableScope? (className : String) :
    mapping.tableScope? className = (mapping.withMetadata other).tableScope? className := by
  unfold Mapping.tableScope?
  rw [alike.class?]
  rfl

theorem schemas : mapping.schemas = (mapping.withMetadata other).schemas := by
  have listed (base : Scope) : mapping.schemasIn base mapping.metadata.classes =
      (mapping.withMetadata other).schemasIn base other.classes := by
    rw [alike.classes]
    exact mapping.schemasIn_withMetadata other base other.classes
  simp only [Mapping.schemas, listed]
  rfl

theorem sameExtraction : mapping.SameExtraction (mapping.withMetadata other) :=
  ⟨alike.tables, alike.table?, alike.tableScope?, alike.schemas⟩

end Metadata.AnswersAlike

/-- Metadata that answer as one registry answer alike. -/
theorem Metadata.AnswersAs.alike {metadata other : Metadata} {registry : ClassRegistry}
    (answers : metadata.AnswersAs registry) (others : other.AnswersAs registry) :
    metadata.AnswersAlike other where
  classes := answers.classes.trans others.classes.symm
  converter? name := (answers.converter? name).trans (others.converter? name).symm

/-- Whatever has been registered, the manifest of what is left answers as the registry, and whatever
answers as the registry leads to the tables, scopes and schemas of that manifest or fails as it does. -/
theorem registry_interchangeable (calls : List Registration) :
    let registry := ClassRegistry.ofRegistrations calls
    let manifest := Manifest.ofRegistrations calls
    registry.metadata.AnswersAs registry ∧ manifest.metadata.AnswersAs registry ∧
      ∀ (mapping : Mapping) (source : Metadata), source.AnswersAs registry →
        (mapping.withMetadata source).SameExtraction (mapping.withMetadata manifest.metadata) := by
  intro registry manifest
  have kept : manifest.metadata.AnswersAs registry := answersAs_ofRegistrations calls
  refine ⟨metadata_ofRegistrations calls ▸ kept, kept, fun mapping source answers => ?_⟩
  have alike : (mapping.withMetadata source).metadata.AnswersAlike manifest.metadata :=
    answers.alike kept
  exact alike.sameExtraction

/-- A note is declared anew with fields, and the converter of its text is replaced. -/
def noteCalls : List Registration := [
  .ofClass { name := "desk.Note", table := some {} },
  .ofConverter "desk.Lines" { fromType := "java.lang.String", toType := "desk.Text" },
  .ofClass { name := "desk.Mood", kind := .enumeration, constants := ["CALM"] },
  .ofConverter "desk.Grams" { fromType := "int", toType := "desk.Weight" },
  .ofClass {
    name := "desk.Note"
    table := some {}
    fields := [
      { name := "text", type := "desk.Text", column := some { converter := some "desk.Lines" } },
      { name := "weight", type := "desk.Weight", column := some { converter := some "desk.Grams" } },
      { name := "mood", type := "desk.Mood" }] },
  .ofConverter "desk.Lines" { fromType := "long", toType := "desk.Text" }]

/-- The classes left of a note, with the converters the other way round and the replaced one behind. -/
def noteSource : Metadata where
  classes := (Manifest.ofRegistrations noteCalls).classes
  converters := [
    ("desk.Grams", { fromType := "int", toType := "desk.Weight" }),
    ("desk.Lines", { fromType := "long", toType := "desk.Text" }),
    ("desk.Lines", { fromType := "java.lang.String", toType := "desk.Text" })]

theorem noteSource_answersAs : noteSource.AnswersAs (ClassRegistry.ofRegistrations noteCalls) := by
  have kept := answersAs_ofRegistrations noteCalls
  refine ⟨kept.class?, kept.classes, fun name => ?_, kept.isEnum⟩
  have left : (Manifest.ofRegistrations noteCalls).converters = [
      ("desk.Lines", { fromType := "long", toType := "desk.Text" }),
      ("desk.Grams", { fromType := "int", toType := "desk.Weight" })] := by decide
  rw [← kept.converter?, Metadata.converter?, Metadata.converter?, Manifest.metadata, left]
  simp only [noteSource, Entries.get?_cons]
  by_cases lines : "desk.Lines" = name
  · subst lines
    rfl
  · simp [lines]

/-- The note that was registered last stands first, and its table is the same from all sources. -/
theorem noteCalls_interchangeable :
    (ClassRegistry.ofRegistrations noteCalls).metadata.classes.map
        (fun decl => (decl.name, decl.fields.length)) = [("desk.Note", 3), ("desk.Mood", 0)] ∧
      noteSource ≠ (ClassRegistry.ofRegistrations noteCalls).metadata ∧
      ∃ tables, (Mapping.ofMetadata noteSource).tables = .ok tables ∧
        (Mapping.ofMetadata (ClassRegistry.ofRegistrations noteCalls).metadata).tables =
          .ok tables ∧
        (Mapping.ofMetadata (Manifest.ofRegistrations noteCalls).metadata).tables = .ok tables := by
  obtain ⟨registry, _, same⟩ := registry_interchangeable noteCalls
  obtain ⟨tables, built⟩ := exists_eq_ok
    (show (Mapping.ofMetadata noteSource).tables.isOk = true by decide +kernel)
  have fromManifest := (same (.ofMetadata noteSource) noteSource noteSource_answersAs).tables
  have fromRegistry := (same (.ofMetadata noteSource) _ registry).tables
  refine ⟨by decide, by decide, tables, built, ?_, ?_⟩
  · exact (fromRegistry.trans fromManifest.symm).trans built
  · exact fromManifest.symm.trans built

end EntityMapper
