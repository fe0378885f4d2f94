import EntityMapper.Proofs.Extraction.Union
import EntityMapper.Proofs.Walk.Rearranged

/-!
# Columns of rearranged classes

Visits become columns one by one, so visits in another order, numbered otherwise, lead to the same
columns in another order and numbered otherwise (`ofVisits_alike`). Which names repeat within a level
and which are shadowed does not depend on the order either (`ofLevels_alike`). What fails in one order
fails in any, though it may be for another cause.
-/
namespace EntityMapper

/-- The column without the numbers of its variables. -/
def Column.unnumbered (column : Column) : Column :=
  { column with parents := column.parents.map Embedding.unnumbered }

/-- Columns in any order that differ in the numbers of variables only. -/
def ColumnsAlike (columns others : List Column) : Prop :=
  (columns.map Column.unnumbered).Perm (others.map Column.unnumbered)

theorem ColumnsAlike.names {columns others : List Column} (alike : ColumnsAlike columns others) :
    (columns.map (·.name)).Perm (others.map (·.name)) := by
  have names := alike.map (·.name)
  rw [List.map_map, List.map_map] at names
  exact names

/-- Joining goes by names, so neither order nor numbers matter to it. -/
theorem ColumnsAlike.joinLevel {columns others level otherLevel : List Column}
    (alike : ColumnsAlike columns others) (levels : ColumnsAlike level otherLevel) :
    ColumnsAlike (joinLevel columns level) (joinLevel others otherLevel) := by
  have fresh (columns level : List Column) :
      (level.filter fun column => columns.all (·.name != column.name)).map Column.unnumbered =
        (level.map Column.unnumbered).filter fun column =>
          (columns.map (·.name)).all (· != column.name) := by
    rw [List.filter_map]
    congr 1
    apply List.filter_congr
    intro column _
    simp only [Function.comp_apply, List.all_map, Column.unnumbered]
    rfl
  have passed (column : Column) : ((columns.map (·.name)).all (· != column.name)) =
      (others.map (·.name)).all (· != column.name) := by
    rw [Bool.eq_iff_iff, List.all_eq_true, List.all_eq_true]
    simp only [alike.names.mem_iff]
  unfold ColumnsAlike EntityMapper.joinLevel at *
  rw [List.map_append, List.map_append, fresh, fresh]
  simp only [passed]
  exact alike.append (levels.filter _)

theorem ColumnsAlike.foldl_joinLevel {own others : List (List Column)}
    (levels : List.Forall₂ ColumnsAlike own others) {columns again : List Column}
    (alike : ColumnsAlike columns again) :
    ColumnsAlike (own.foldl EntityMapper.joinLevel columns)
      (others.foldl EntityMapper.joinLevel again) := by
  induction levels generalizing columns again with
  | nil => exact alike
  | cons level _ ih => exact ih (alike.joinLevel level)

namespace ColumnFrame

/-- The column that a visit leads to when it meets no fault. -/
def column? (frame : ColumnFrame) (visit : Visit) : Option Column :=
  (frame.ofVisit visit).toOption.join

/-- Visits are built one by one: each has to succeed, and gives its column if it has one. -/
theorem ofVisits_eq_ok {frame : ColumnFrame} {visits : List Visit} {columns : List Column} :
    frame.ofVisits visits = .ok columns ↔
      (∀ visit ∈ visits, (frame.ofVisit visit).isOk = true) ∧
        columns = visits.filterMap frame.column? := by
  induction visits generalizing columns with
  | nil => simp [ofVisits, pure_eq_ok, eq_comm (b := columns)]
  | cons visit rest ih =>
    simp only [ofVisits, bind_eq_ok, pure_eq_ok, ih, List.forall_mem_cons, List.filterMap_cons,
      column?]
    cases frame.ofVisit visit with
    | error cause => simp [Except.isOk, Except.toBool]
    | ok column =>
      cases column <;>
        simp [Except.isOk, Except.toBool, Except.toOption, eq_comm (b := columns)]

theorem firstRepeat_of_nodup {seen names : List String} (distinct : names.Nodup)
    (fresh : ∀ name ∈ names, name ∉ seen) : firstRepeat seen names = none := by
  induction names generalizing seen with
  | nil => rfl
  | cons name rest ih =>
    obtain ⟨own, others⟩ := List.nodup_cons.mp distinct
    obtain ⟨first, later⟩ := List.forall_mem_cons.mp fresh
    unfold firstRepeat
    rw [if_neg first]
    apply ih others
    intro other member known
    rcases List.mem_cons.mp known with rfl | old
    · exact own member
    · exact later other member old

theorem ofLevel_of_nodup {frame : ColumnFrame} {visits : List Visit} {columns : List Column}
    (made : frame.ofVisits visits = .ok columns) (distinct : (columns.map (·.name)).Nodup) :
    frame.ofLevel visits = .ok columns := by
  have unrepeated : firstRepeat [] (columns.map (·.name)) = none :=
    firstRepeat_of_nodup distinct (by simp)
  unfold ofLevel
  rw [made]
  simp only [bind, Except.bind, unrepeated]
  rfl

theorem build_unnumbered (frame : ColumnFrame) (site : Site) (field : FieldDeclaration)
    (overrides : Option ColumnOptions) :
    frame.build ⟨site.unnumbered, field⟩ overrides =
      (frame.build ⟨site, field⟩ overrides).map Column.unnumbered := by
  rw [build_eq, build_eq]
  dsimp only
  cases frame.strategyFor (optionsFor field overrides) with
  | error cause => rfl
  | ok strategy =>
    cases frame.mapping.converters.resolve frame.mapping.metadata
      (optionsFor field overrides).converter (frame.mapping.fieldType field.type) with
    | error cause => rfl
    | ok converter =>
      change (frame.sqlType (optionsFor field overrides).sqlType converter _ >>= _) =
        Except.map _ (frame.sqlType (optionsFor field overrides).sqlType converter _ >>= _)
      cases frame.sqlType (optionsFor field overrides).sqlType converter
        (frame.mapping.fieldType field.type) <;> rfl

/-- Numbers of variables pass through to the column. -/
theorem ofVisit_unnumbered (frame : ColumnFrame) (visit : Visit) :
    frame.ofVisit visit.unnumbered = (frame.ofVisit visit).map (Option.map Column.unnumbered) := by
  cases visit with
  | unknownClass name referencedBy => rfl
  | cycle className path => rfl
  | leaf path overrides =>
    change (if frame.keeps path.field overrides = true then _ else _) =
      Except.map _ (if frame.keeps path.field overrides = true then _ else _)
    by_cases kept : frame.keeps path.field overrides = true
    · rw [if_pos kept, if_pos kept, build_unnumbered]
      cases frame.build path overrides <;> rfl
    · rw [if_neg kept, if_neg kept]
      rfl

section Alike

variable {frame again : ColumnFrame} (reads : ∀ visit, again.ofVisit visit = frame.ofVisit visit)

include reads

/-- Visits in another order and numbered otherwise lead to such columns. -/
theorem ofVisits_alike {visits others : List Visit} {columns : List Column}
    (alike : VisitsAlike visits others) (made : frame.ofVisits visits = .ok columns) :
    ∃ renewed, again.ofVisits others = .ok renewed ∧ ColumnsAlike columns renewed := by
  have sameColumn : again.column? = frame.column? := by
    funext visit
    unfold column?
    rw [reads]
  have isOk (visit : Visit) :
      (frame.ofVisit visit.unnumbered).isOk = (frame.ofVisit visit).isOk := by
    rw [ofVisit_unnumbered]
    cases frame.ofVisit visit <;> rfl
  have unnumbered (visits : List Visit) :
      (visits.filterMap frame.column?).map Column.unnumbered =
        (visits.map Visit.unnumbered).filterMap frame.column? := by
    rw [List.map_filterMap, List.filterMap_map]
    apply List.filterMap_congr
    intro visit _
    unfold column?
    rw [Function.comp_apply, ofVisit_unnumbered]
    cases frame.ofVisit visit with
    | error cause => rfl
    | ok column => cases column <;> rfl
  obtain ⟨succeed, rfl⟩ := ofVisits_eq_ok.mp made
  refine ⟨_, ofVisits_eq_ok.mpr ⟨?_, rfl⟩, ?_⟩
  · intro visit member
    have moved : visit.unnumbered ∈ visits.map Visit.unnumbered :=
      alike.mem_iff.mpr (List.mem_map_of_mem member)
    obtain ⟨original, inVisits, same⟩ := List.mem_map.mp moved
    rw [reads, ← isOk, ← same, isOk]
    exact succeed original inVisits
  · unfold ColumnsAlike
    rw [sameColumn, unnumbered, unnumbered]
    exact alike.filterMap _

theorem ofLevel_alike {visits others : List Visit} {columns : List Column}
    (alike : VisitsAlike visits others) (made : frame.ofLevel visits = .ok columns) :
    ∃ renewed, again.ofLevel others = .ok renewed ∧ ColumnsAlike columns renewed := by
  obtain ⟨visited, distinct⟩ := ofLevel_eq_ok made
  obtain ⟨renewed, visitedAgain, same⟩ := ofVisits_alike reads alike visited
  exact ⟨renewed, ofLevel_of_nodup visitedAgain (same.names.nodup_iff.mp distinct), same⟩

theorem ofLevels_alike {levels others : List (List Visit)} {columns : List Column}
    (alike : List.Forall₂ VisitsAlike levels others)
    (made : frame.ofLevels [] levels = .ok columns) :
    ∃ renewed, again.ofLevels [] others = .ok renewed ∧ ColumnsAlike columns renewed := by
  obtain ⟨own, built, rfl⟩ := ofLevels_eq_ok.mp made
  obtain ⟨ownAgain, builtAgain, same⟩ : ∃ ownAgain,
      List.Forall₂ (fun visits level => again.ofLevel visits = .ok level) others ownAgain ∧
        List.Forall₂ ColumnsAlike own ownAgain := by
    clear made
    induction alike generalizing own with
    | nil =>
      cases built
      exact ⟨[], .nil, .nil⟩
    | cons level _ ih =>
      cases built with
      | cons first later =>
        obtain ⟨renewed, firstAgain, same⟩ := ofLevel_alike reads level first
        obtain ⟨rest, laterAgain, others⟩ := ih _ later
        exact ⟨renewed :: rest, .cons firstAgain laterAgain, .cons same others⟩
  exact ⟨_, ofLevels_eq_ok.mpr ⟨ownAgain, builtAgain, rfl⟩, .foldl_joinLevel same (.refl _)⟩

end Alike

end ColumnFrame

/-- The mapping of other metadata under the same settings. -/
def Mapping.withMetadata (mapping : Mapping) (metadata : Metadata) : Mapping :=
  { mapping with metadata := metadata }

/-- A single column takes of the metadata only which types are enums and the converters by name. -/
theorem Mapping.ofVisit_withMetadata {mapping : Mapping} {other : Metadata}
    (enums : ∀ type, mapping.metadata.isEnum type = other.isEnum type)
    (converters : ∀ name, mapping.metadata.converter? name = other.converter? name)
    (parent : Scope) (placed : TableScope) (visit : Visit) :
    ((mapping.withMetadata other).columnFrame parent placed).ofVisit visit =
      (mapping.columnFrame parent placed).ofVisit visit := by
  have typed (type : String) :
      (mapping.withMetadata other).fieldType type = mapping.fieldType type := by
    unfold Mapping.fieldType
    rw [enums]
    rfl
  have resolves (explicit : Option String) (type : FieldType) :
      mapping.converters.resolve other explicit type =
        mapping.converters.resolve mapping.metadata explicit type := by
    simp only [DefaultConverters.resolve, converters]
  cases visit with
  | unknownClass name referencedBy => rfl
  | cycle className path => rfl
  | leaf path overrides =>
    unfold ColumnFrame.ofVisit ColumnFrame.keeps ColumnFrame.isStorable ColumnFrame.build
      ColumnFrame.sqlType Mapping.columnFrame
    simp only [typed]
    simp only [Mapping.withMetadata, resolves]
    rfl

/-- The order of declarations decides nothing about a single column. -/
theorem Metadata.Rearranged.ofVisit {mapping : Mapping} {other : Metadata}
    (same : mapping.metadata.Rearranged other) (parent : Scope) (placed : TableScope)
    (visit : Visit) :
    ((mapping.withMetadata other).columnFrame parent placed).ofVisit visit =
      (mapping.columnFrame parent placed).ofVisit visit :=
  Mapping.ofVisit_withMetadata same.isEnum
    (fun name => congrArg (Entries.get? · name) same.converters) parent placed visit

end EntityMapper
