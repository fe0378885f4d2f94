import EntityMapper.Extraction.Table
import EntityMapper.Proofs.Extraction.Bulk
import EntityMapper.Proofs.Extraction.Failure
import EntityMapper.Proofs.Manifest.References
import EntityMapper.Proofs.Walk.Levels

/-!
# Extraction from a valid manifest

Over metadata that is closed under its references, a walk meets no unknown class, and every
converter that options ask for, however they were merged, is one that a declaration names. So what
can still fail of a valid manifest are types without a mapping, cycles of embedding, equal column
names and naming strategies (`valid_leaves_open`).
-/
namespace EntityMapper

/-- The causes that a valid manifest leaves open. -/
def MappingError.LeftOpen : MappingError → Prop
  | typeNotFound _ _ | embeddingCycle _ _ | duplicateColumn _ _ => True
  | strategyNotRegistered _ | strategyFailed _ _ => True
  | unknownClass _ _ | converterNotDeclared _ => False

theorem MappingError.OfStrategy.leftOpen {cause : MappingError} (named : cause.OfStrategy) :
    cause.LeftOpen := by
  cases cause with
  | strategyNotRegistered _ | strategyFailed _ _ => trivial
  | _ => cases named

/-- The outcome is a result, or a failure for one of the causes left open. -/
def FailsOnlyOpenly {α : Type} (outcome : Except MappingError α) : Prop :=
  ∀ cause, outcome = .error cause → cause.LeftOpen

namespace Metadata

theorem knows_orElse {metadata : Metadata} {upper lower : ColumnOptions}
    (knowsUpper : metadata.Knows upper) (knowsLower : metadata.Knows lower) :
    metadata.Knows (upper.orElse lower) := by
  intro name named
  cases set : upper.converter with
  | some given =>
    rw [ColumnOptions.orElse, set] at named
    exact knowsUpper name (set.trans named)
  | none =>
    rw [ColumnOptions.orElse, set] at named
    exact knowsLower name named

/-- Merging layers brings in no converter that none of them names. -/
theorem knows_mergedOverride {metadata : Metadata} {layers : List OverrideLayer}
    (known : ∀ layer ∈ layers, ∀ entry ∈ layer.overrides, metadata.Knows entry.2)
    {path : List String} {options : ColumnOptions}
    (merged : mergedOverride layers path = some options) : metadata.Knows options := by
  induction layers generalizing options with
  | nil => cases merged
  | cons layer weaker ih =>
    obtain ⟨own, others⟩ := List.forall_mem_cons.mp known
    have found {upper : ColumnOptions} (asked : layer.find? path = some upper) :
        metadata.Knows upper := by
      rw [OverrideLayer.find?] at asked
      split at asked
      · cases asked
      · exact own _ (Entries.mem_of_get? asked)
    rw [mergedOverride] at merged
    split at merged
    · rename_i upper lower asked deeper
      cases merged
      exact knows_orElse (found asked) (ih others deeper)
    · rename_i upper asked _
      cases merged
      exact found asked
    · exact ih others merged

end Metadata

/-- What the visit finds is declared, and so are the converters that may be asked for there. -/
def Visit.Resolved (metadata : Metadata) : Visit → Prop
  | .leaf path overrides =>
    (∀ options, path.field.column = some options → metadata.Knows options) ∧
      ∀ options, overrides = some options → metadata.Knows options
  | .unknownClass _ _ => False
  | .cycle _ _ => True

/-- A walk over closed metadata finds all it visits declared, at whatever depth. -/
theorem Walked.resolved {metadata : Metadata} (closed : metadata.Closed) {frame : Frame}
    {fields : List FieldDeclaration} {vars after : Variables} {visits : List Visit}
    (walked : Walked metadata frame fields vars visits after)
    (declared : ∀ field ∈ fields, metadata.ResolvesField field)
    (known : ∀ layer ∈ frame.layers, ∀ entry ∈ layer.overrides, metadata.Knows entry.2) :
    ∀ visit ∈ visits, visit.Resolved metadata := by
  induction walked with
  | done frame vars => simp
  | dropped _ _ ih => exact ih (List.forall_mem_cons.mp declared).2 known
  | leaf _ _ _ ih =>
    obtain ⟨own, others⟩ := List.forall_mem_cons.mp declared
    exact List.forall_mem_cons.mpr ⟨⟨own.column, fun options merged =>
      Metadata.knows_mergedOverride known merged⟩, ih others known⟩
  | unknown _ embeds missing _ _ =>
    have type := (List.forall_mem_cons.mp declared).1.type (by simp [embeds])
    simp [missing] at type
  | cycle _ _ _ _ _ ih =>
    exact List.forall_mem_cons.mpr ⟨trivial, ih (List.forall_mem_cons.mp declared).2 known⟩
  | inside _ embeds found _ _ _ ihBody ihOthers =>
    obtain ⟨own, others⟩ := List.forall_mem_cons.mp declared
    have class_ := closed _ (Metadata.class?_mem found).1
    -- The frame inside has one layer more: the overrides declared at the embedding.
    have body := ihBody class_.fields <| by
      intro layer member
      rcases List.mem_append.mp member with outer | last
      · exact known layer outer
      · rw [List.mem_singleton.mp last]
        exact own.overrides _ embeds
    exact List.forall_mem_append.mpr ⟨body, ihOthers others known⟩

/-- All that the levels of a declared class visit is found declared. -/
theorem walkLevels_resolved {metadata : Metadata} (closed : metadata.Closed) {decl : ClassDeclaration}
    (declared : decl ∈ metadata.classes) {inheritance : Bool} {visits : List Visit}
    (member : visits ∈ walkLevels metadata decl (lineage metadata decl inheritance) {}) :
    ∀ visit ∈ visits, visit.Resolved metadata := by
  obtain ⟨level, inLineage, _, _, walked⟩ := walkLevels_walked member
  have own := closed level (mem_lineage declared inLineage)
  refine walked.resolved closed own.fields fun layer inLayers => ?_
  rw [levelFrame] at inLayers
  rcases List.mem_cons.mp inLayers with rfl | above
  · exact (closed decl declared).overrides
  · split at above
    · cases above
    · rw [List.mem_singleton.mp above]
      exact own.overrides

namespace ColumnFrame

theorem build_leftOpen {frame : ColumnFrame} {path : FieldPath} {overrides : Option ColumnOptions}
    (resolved : Visit.Resolved frame.mapping.metadata (.leaf path overrides)) :
    FailsOnlyOpenly (frame.build path overrides) := by
  intro cause failed
  rcases build_eq_error failed with named | ⟨name, asked, undeclared, _⟩ | ⟨requested, rfl⟩
  · exact named.leftOpen
  · have declared : frame.mapping.metadata.Knows (path.field.column.getD .unset) := by
      cases own : path.field.column with
      | none => intro name none; cases none
      | some options => exact resolved.1 options own
    have known : frame.mapping.metadata.Knows (optionsFor path.field overrides) := by
      cases overrides with
      | none => exact declared
      | some upper => exact Metadata.knows_orElse (resolved.2 upper rfl) declared
    have found := known name asked
    simp [undeclared] at found
  · trivial

theorem ofLevels_leftOpen {frame : ColumnFrame} {columns : List Column}
    {levels : List (List Visit)}
    (resolved : ∀ visits ∈ levels, ∀ visit ∈ visits, visit.Resolved frame.mapping.metadata) :
    FailsOnlyOpenly (frame.ofLevels columns levels) := by
  intro cause failed
  obtain ⟨lower, visits, upper, _, rfl, _, failed⟩ := ofLevels_eq_error.mp failed
  rcases ofLevel_eq_error failed with failed | ⟨name, rfl⟩
  · obtain ⟨before, visit, after, _, rfl, _, failed⟩ := ofVisits_eq_error.mp failed
    have here := resolved (before ++ visit :: after) (by simp) visit (by simp)
    rcases ofVisit_eq_error failed with ⟨_, _, rfl, _⟩ | ⟨_, _, _, rfl⟩ | ⟨_, _, rfl, unbuilt⟩
    · exact here.elim
    · trivial
    · exact build_leftOpen here cause unbuilt
  · trivial

end ColumnFrame

namespace Mapping

theorem buildIn_leftOpen {mapping : Mapping} (closed : mapping.metadata.Closed)
    {decl : ClassDeclaration} (declared : decl ∈ mapping.metadata.classes) (options : TableOptions)
    (parent : Scope) : FailsOnlyOpenly (mapping.buildIn decl options parent) := by
  intro cause failed
  rcases buildIn_eq_error.mp failed with unplaced | ⟨placed, _, failed⟩
  · exact (tableScope_eq_error unplaced).leftOpen
  · exact ColumnFrame.ofLevels_leftOpen (fun visits member => walkLevels_resolved closed declared member)
      cause failed

theorem tables_leftOpen {mapping : Mapping} (closed : mapping.metadata.Closed) :
    FailsOnlyOpenly mapping.tables := by
  intro cause failed
  rcases bind_eq_error.mp failed with unnamed | ⟨base, _, failed⟩
  · exact (baseScope_eq_error unnamed).leftOpen
  · obtain ⟨before, decl, after, classes, fails, _⟩ := tablesIn_eq_error failed
    obtain ⟨options, _, failed⟩ := outcome?_eq_some.mp fails
    exact buildIn_leftOpen closed (by simp [classes]) options base cause failed

theorem mem_of_buildableClass? {mapping : Mapping} {className : String} {decl : ClassDeclaration}
    {options : TableOptions} (buildable : mapping.buildableClass? className = some (decl, options)) :
    decl ∈ mapping.metadata.classes := by
  simp only [buildableClass?, Option.bind_eq_bind, Option.bind_eq_some_iff, Option.pure_def,
    Option.some.injEq, Prod.mk.injEq] at buildable
  obtain ⟨_, looked, _, _, rfl, _⟩ := buildable
  exact (Metadata.class?_mem looked).1

theorem table?_leftOpen {mapping : Mapping} (closed : mapping.metadata.Closed)
    (className : String) : FailsOnlyOpenly (mapping.table? className) := by
  intro cause failed
  rw [table?] at failed
  split at failed
  · cases failed
  · rename_i decl options buildable
    rcases bind_eq_error.mp failed with unnamed | ⟨base, _, failed⟩
    · exact (baseScope_eq_error unnamed).leftOpen
    · rcases bind_eq_error.mp failed with unbuilt | ⟨_, _, returned⟩
      · exact buildIn_leftOpen closed (mem_of_buildableClass? buildable) options base cause unbuilt
      · cases returned

theorem tableScope?_eq_error {mapping : Mapping} {className : String} {cause : MappingError}
    (failed : mapping.tableScope? className = .error cause) : cause.OfStrategy := by
  rw [tableScope?] at failed
  split at failed
  · cases failed
  · rcases bind_eq_error.mp failed with unnamed | ⟨base, _, failed⟩
    · exact baseScope_eq_error unnamed
    · split at failed
      · cases failed
      · rcases bind_eq_error.mp failed with unplaced | ⟨_, _, returned⟩
        · exact tableScope_eq_error unplaced
        · cases returned

theorem schemas_eq_error {mapping : Mapping} {cause : MappingError}
    (failed : mapping.schemas = .error cause) : cause.OfStrategy := by
  rcases bind_eq_error.mp failed with unnamed | ⟨base, _, failed⟩
  · exact baseScope_eq_error unnamed
  · rcases bind_eq_error.mp failed with schema | ⟨_, _, returned⟩
    · exact schemasIn_eq_error schema
    · cases returned

end Mapping

/-- Whatever a valid manifest embeds, inherits or overrides, its tables, their scopes and its schemas
fail for the causes left open only. -/
theorem valid_leaves_open (manifest : Manifest) (source file : String)
    (valid : manifest.validate source file = .ok ()) :
    let mapping := Mapping.ofManifest manifest
    (∀ decl ∈ manifest.classes, ∀ options parent,
      FailsOnlyOpenly (mapping.buildIn decl options parent) ∧
        FailsOnlyOpenly (mapping.tableScope decl options parent)) ∧
      FailsOnlyOpenly mapping.tables ∧
      (∀ className, FailsOnlyOpenly (mapping.table? className)) ∧
      (∀ className, FailsOnlyOpenly (mapping.tableScope? className)) ∧
      FailsOnlyOpenly mapping.schemas := by
  intro mapping
  have closed : mapping.metadata.Closed := Manifest.validate_closed valid
  refine ⟨fun decl declared options parent => ⟨?_, ?_⟩, Mapping.tables_leftOpen closed,
    Mapping.table?_leftOpen closed, fun className cause failed => ?_, fun cause failed => ?_⟩
  · exact Mapping.buildIn_leftOpen closed declared options parent
  · exact fun cause failed => (Mapping.tableScope_eq_error failed).leftOpen
  · exact (Mapping.tableScope?_eq_error failed).leftOpen
  · exact (Mapping.schemas_eq_error failed).leftOpen

/-- An order inherits from a record; both override what is embedded in the order, the price in it
and its tax. The tax is a price again. -/
def orderManifest : Manifest where
  converters := [("shop.MoneyConverter", { fromType := "long", toType := "shop.Money" })]
  classes := [
    { name := "shop.Order"
      superclass := some "shop.Record"
      table := some { inheritance := true }
      fields := [
        { name := "price", type := "shop.Price",
          embedded := some [("amount", { converter := some "shop.MoneyConverter" })] }]
      overrides := [("price.amount", { name := some "total" })] },
    { name := "shop.Record"
      table := some {}
      fields := [{ name := "id", type := "long" }]
      overrides := [("id", { converter := some "shop.MoneyConverter" })] },
    { name := "shop.Price"
      kind := .embeddable
      fields := [
        { name := "amount", type := "shop.Money",
          column := some { converter := some "shop.MoneyConverter" } },
        { name := "tax", type := "shop.Price", embedded := some [] }] }]

/-- The record of orders can be built, and the price around its own tax is a cause left open. -/
theorem orderManifest_leaves_open :
    orderManifest.validate "" "orders.toml" = .ok () ∧
      ((Mapping.ofManifest orderManifest).table? "shop.Record").isOk = true ∧
      ∃ cause, (Mapping.ofManifest orderManifest).tables = .error cause ∧ cause.LeftOpen := by
  have valid : orderManifest.validate "" "orders.toml" = .ok () := by decide +kernel
  have failed : (Mapping.ofManifest orderManifest).tables =
      .error (.embeddingCycle "shop.Price" "price.tax") := cause?_eq_some.mp (by decide +kernel)
  exact ⟨valid, by decide +kernel, _, failed,
    (valid_leaves_open orderManifest "" "orders.toml" valid).2.1 _ failed⟩

end EntityMapper
