import EntityMapper.Proofs.Extraction.Bulk
import EntityMapper.Proofs.Manifest.Reading
import EntityMapper.Proofs.Mapper.Converters

/-!
# Converters that pass for one another

A table keeps one converter for each key, the name of a converter followed by that of its target. So
converters that differ pass for one another where one name goes on into the target of the other, or
where a manifest declares a converter of its own under the name of the one that enums have by default
(`equal_converters`). Both happen (`ledgerManifest_confuses_converters`).
-/
namespace EntityMapper

namespace Converter

/-- The type of `longer` is that of `shorter` together with the beginning of its target. -/
def RunsInto (shorter longer : Converter) : Prop :=
  ∃ overlap, overlap ≠ "" ∧ longer.converterType = shorter.converterType ++ overlap ∧
    shorter.toType = overlap ++ longer.toType

theorem RunsInto.same {shorter longer : Converter} (runs : shorter.RunsInto longer) :
    shorter.same longer = true := by
  obtain ⟨overlap, _, types, targets⟩ := runs
  simp [Converter.same, key, types, targets, String.append_assoc]

theorem RunsInto.ne {shorter longer : Converter} (runs : shorter.RunsInto longer) :
    shorter ≠ longer := by
  obtain ⟨overlap, filled, types, _⟩ := runs
  rintro rfl
  have lengths := congrArg String.length types
  rw [String.length_append] at lengths
  exact filled (String.length_eq_zero_iff.mp (by omega))

/-- A name that begins one of two equal texts is continued by the beginning of the other text. -/
theorem runsInto_of_append {a b : Converter} {overlap : List Char}
    (types : b.converterType.toList = a.converterType.toList ++ overlap)
    (targets : a.toType.toList = overlap ++ b.toType.toList) :
    (a.converterType = b.converterType ∧ a.toType = b.toType) ∨ a.RunsInto b := by
  have ofTypes : b.converterType = a.converterType ++ String.ofList overlap := by
    apply String.toList_injective
    simpa using types
  have ofTargets : a.toType = String.ofList overlap ++ b.toType := by
    apply String.toList_injective
    simpa using targets
  by_cases empty : overlap = []
  · subst empty
    exact .inl ⟨by simpa using ofTypes.symm, by simpa using ofTargets⟩
  · exact .inr ⟨String.ofList overlap, by simpa using empty, ofTypes, ofTargets⟩

/-- Keys agree where both names do, or where one name goes on into the target of the other. -/
theorem same_iff (a b : Converter) :
    a.same b = true ↔ (a.converterType = b.converterType ∧ a.toType = b.toType) ∨
      a.RunsInto b ∨ b.RunsInto a := by
  constructor
  · intro same
    have keys : a.converterType.toList ++ a.toType.toList =
        b.converterType.toList ++ b.toType.toList := by
      simpa [Converter.same, key] using congrArg String.toList (beq_iff_eq.mp same)
    rcases List.append_eq_append_iff.mp keys with ⟨overlap, types, targets⟩ | ⟨overlap, types, targets⟩
    · exact (runsInto_of_append types targets).imp_right .inl
    · rcases runsInto_of_append types targets with ⟨sameType, sameTarget⟩ | runs
      · exact .inl ⟨sameType.symm, sameTarget.symm⟩
      · exact .inr (.inr runs)
  · rintro (⟨types, targets⟩ | runs | runs)
    · simp [Converter.same, key, types, targets]
    · exact runs.same
    · have same := runs.same
      simp only [Converter.same, beq_iff_eq] at same ⊢
      exact same.symm

end Converter

/-- What an enum is converted by, unless its column asks for another converter. -/
def QueryLibrary.enumDefault (library : QueryLibrary) (enum : String) : Converter where
  converterType := library.enumConverter
  fromType := "java.lang.String"
  toType := Java.boxed enum
  generic := true

namespace Metadata

/-- The converter is what is declared under the name of its type. -/
def Declares (metadata : Metadata) (converter : Converter) : Prop :=
  metadata.converter? converter.converterType =
    some ⟨converter.fromType, converter.toType, converter.generic⟩

/-- The converter is the default of a declared enum. -/
def IsEnumDefault (metadata : Metadata) (library : QueryLibrary) (converter : Converter) : Prop :=
  ∃ enum, metadata.isEnum enum = true ∧ converter = library.enumDefault enum

/-- The one is declared under the name of the other, which an enum has by default, with the same
target. -/
def Replaces (metadata : Metadata) (library : QueryLibrary) (declared default : Converter) : Prop :=
  metadata.Declares declared ∧ metadata.IsEnumDefault library default ∧
    declared.converterType = default.converterType ∧ declared.toType = default.toType

/-- Two different converters pass for one another. -/
def Confuses (metadata : Metadata) (library : QueryLibrary) (a b : Converter) : Prop :=
  a.RunsInto b ∨ b.RunsInto a ∨
    a ≠ b ∧ (metadata.Replaces library a b ∨ metadata.Replaces library b a)

theorem Confuses.same {metadata : Metadata} {library : QueryLibrary} {a b : Converter}
    (confused : metadata.Confuses library a b) : a.same b = true := by
  rcases confused with runs | runs | ⟨_, replaces | replaces⟩
  · exact runs.same
  · exact (Converter.same_iff a b).mpr (.inr (.inr runs))
  · obtain ⟨_, _, types, targets⟩ := replaces
    exact (Converter.same_iff a b).mpr (.inl ⟨types, targets⟩)
  · obtain ⟨_, _, types, targets⟩ := replaces
    exact (Converter.same_iff a b).mpr (.inl ⟨types.symm, targets.symm⟩)

theorem Confuses.ne {metadata : Metadata} {library : QueryLibrary} {a b : Converter}
    (confused : metadata.Confuses library a b) : a ≠ b := by
  rcases confused with runs | runs | ⟨differ, _⟩
  · exact runs.ne
  · exact runs.ne.symm
  · exact differ

/-- One name is declared once. -/
theorem Declares.eq {metadata : Metadata} {a b : Converter} (ofA : metadata.Declares a)
    (ofB : metadata.Declares b) (types : a.converterType = b.converterType) : a = b := by
  rw [Declares] at ofA ofB
  rw [types, ofB] at ofA
  cases a
  cases b
  simp_all

/-- An enum has one default. -/
theorem IsEnumDefault.eq {metadata : Metadata} {library : QueryLibrary} {a b : Converter}
    (ofA : metadata.IsEnumDefault library a) (ofB : metadata.IsEnumDefault library b)
    (targets : a.toType = b.toType) : a = b := by
  obtain ⟨first, _, rfl⟩ := ofA
  obtain ⟨second, _, rfl⟩ := ofB
  have boxed : Java.boxed first = Java.boxed second := targets
  rw [QueryLibrary.enumDefault, QueryLibrary.enumDefault, boxed]

/-- Of converters that are declared or an enum's default, equal keys have those that are equal and
those that are confused. -/
theorem same_iff_confuses {metadata : Metadata} {library : QueryLibrary} {a b : Converter}
    (ofA : metadata.Declares a ∨ metadata.IsEnumDefault library a)
    (ofB : metadata.Declares b ∨ metadata.IsEnumDefault library b) :
    a.same b = true ↔ a = b ∨ metadata.Confuses library a b := by
  constructor
  · intro same
    rcases (Converter.same_iff a b).mp same with ⟨types, targets⟩ | runs | runs
    · by_cases equal : a = b
      · exact .inl equal
      · refine .inr (.inr (.inr ⟨equal, ?_⟩))
        rcases ofA with declaredA | defaultA <;> rcases ofB with declaredB | defaultB
        · exact absurd (declaredA.eq declaredB types) equal
        · exact .inl ⟨declaredA, defaultB, types, targets⟩
        · exact .inr ⟨declaredB, defaultA, types.symm, targets.symm⟩
        · exact absurd (defaultA.eq defaultB targets) equal
    · exact .inr (.inl runs)
    · exact .inr (.inr (.inl runs))
  · rintro (rfl | confused)
    · exact (Converter.same_iff a a).mpr (.inl ⟨rfl, rfl⟩)
    · exact confused.same

end Metadata

/-- Over the standard defaults, a column gets a declared converter or the default of an enum. -/
theorem DefaultConverters.resolve_standard {library : QueryLibrary} {mapping : Mapping}
    {explicit : Option String} {typeName : String} {converter : Converter}
    (resolved : (standard library).resolve mapping.metadata explicit (mapping.fieldType typeName) =
      .ok (some converter)) :
    mapping.metadata.Declares converter ∨ mapping.metadata.IsEnumDefault library converter := by
  cases explicit with
  | some name =>
    left
    simp only [resolve] at resolved
    cases declared : mapping.metadata.converter? name with
    | none =>
      rw [declared] at resolved
      cases resolved
    | some decl =>
      rw [declared] at resolved
      cases resolved
      exact declared
  | none =>
    right
    have chosen : (standard library).forType? (mapping.fieldType typeName) = some converter :=
      Except.ok.inj resolved
    by_cases enum : mapping.metadata.isEnum typeName = true
    · refine ⟨typeName, enum, ?_⟩
      rw [Mapping.fieldType, if_pos enum] at chosen
      exact (Option.some.inj chosen).symm
    · rw [Mapping.fieldType, if_neg enum] at chosen
      cases chosen

/-- A table of a manifest has converters that the manifest declares or that enums have by default. -/
theorem Mapping.buildIn_converter {mapping : Mapping} (standard : mapping.converters = .standard .jooq)
    {decl : ClassDeclaration} {options : TableOptions} {parent : Scope} {table : Table}
    (built : mapping.buildIn decl options parent = .ok table) {column : Column}
    (member : column ∈ table.columns) {converter : Converter}
    (converts : column.converter = some converter) :
    mapping.metadata.Declares converter ∨ mapping.metadata.IsEnumDefault .jooq converter := by
  obtain ⟨placed, _, _, builds⟩ := buildIn_buildsLeaf built
  obtain ⟨_, _, _, _, _, _, single⟩ := builds column member
  obtain ⟨_, chosen, _, _, resolved, _, rfl⟩ := ColumnFrame.build_eq_ok.mp single
  have same : chosen = some converter := converts
  subst same
  rw [columnFrame, standard] at resolved
  exact DefaultConverters.resolve_standard resolved

/-- The converters of a table are all those of its columns where equal keys have equal converters. -/
theorem Table.converters_complete_iff (table : Table) :
    (∀ column ∈ table.columns, ∀ converter, column.converter = some converter →
        converter ∈ table.converters) ↔
      ∀ a ∈ table.columns, ∀ b ∈ table.columns, ∀ first second, a.converter = some first →
        b.converter = some second → first.same second = true → first = second := by
  have listed {converter : Converter} :
      converter ∈ (table.columns.filterMap (·.converter)).reverse ↔
        ∃ column ∈ table.columns, column.converter = some converter := by
    rw [List.mem_reverse, List.mem_filterMap]
  constructor
  · intro complete a ofA b ofB first second converts converts' same
    exact List.inj_on_of_nodup_map table.nodup_converter_keys (complete a ofA first converts)
      (complete b ofB second converts') (beq_iff_eq.mp same)
  · intro apart column member converter converts
    obtain ⟨kept, inConverters, keys⟩ := Ascending.exists_mem_ofList.mpr
      ⟨converter, listed.mpr ⟨column, member, converts⟩, rfl⟩
    obtain ⟨other, ofOther, converts'⟩ := table.exists_column_of_mem_converters inConverters
    rw [apart column member other ofOther converter kept converts converts' (beq_iff_eq.mpr keys.symm)]
    exact inConverters

/-- Two columns of a table have converters of one key where the converters are equal or confused, and
the table keeps the converter of each column exactly where no two are confused. -/
theorem equal_converters (manifest : Manifest) (tables : List Table) (table : Table)
    (built : (Mapping.ofManifest manifest).tables = .ok tables) (member : table ∈ tables) :
    (∀ a ∈ table.columns, ∀ b ∈ table.columns, ∀ first second, a.converter = some first →
      b.converter = some second →
        (first.same second = true ↔
          first = second ∨ manifest.metadata.Confuses .jooq first second)) ∧
    ((∀ column ∈ table.columns, ∀ converter, column.converter = some converter →
        converter ∈ table.converters) ↔
      ∀ a ∈ table.columns, ∀ b ∈ table.columns, ∀ first second, a.converter = some first →
        b.converter = some second → ¬ manifest.metadata.Confuses .jooq first second) := by
  obtain ⟨base, _, built⟩ := bind_eq_ok.mp built
  obtain ⟨decl, _, options, _, made⟩ := Mapping.exists_of_mem_tables built member
  have known (column : Column) (inTable : column ∈ table.columns) (converter : Converter)
      (converts : column.converter = some converter) :
      manifest.metadata.Declares converter ∨ manifest.metadata.IsEnumDefault .jooq converter :=
    Mapping.buildIn_converter rfl made inTable converts
  have alike (a : Column) (ofA : a ∈ table.columns) (b : Column) (ofB : b ∈ table.columns)
      (first second : Converter) (converts : a.converter = some first)
      (converts' : b.converter = some second) :
      first.same second = true ↔
        first = second ∨ manifest.metadata.Confuses .jooq first second :=
    Metadata.same_iff_confuses (known a ofA first converts) (known b ofB second converts')
  refine ⟨alike, table.converters_complete_iff.trans ⟨?_, ?_⟩⟩
  · intro apart a ofA b ofB first second converts converts' confused
    exact confused.ne (apart a ofA b ofB first second converts converts' confused.same)
  · intro clear a ofA b ofB first second converts converts' same
    rcases (alike a ofA b ofB first second converts converts').mp same with equal | confused
    · exact equal
    · exact absurd confused (clear a ofA b ofB first second converts converts')

/-- A till with two amounts of one kind and a state. -/
def tillManifest : Manifest where
  converters := [("fx.Rate", { fromType := "long", toType := "sum.Money" })]
  classes := [
    { name := "bank.Till"
      table := some {}
      fields := [
        { name := "closed", type := "sum.Money", column := some { converter := some "fx.Rate" } },
        { name := "opened", type := "sum.Money", column := some { converter := some "fx.Rate" } },
        { name := "state", type := "bank.State" }] },
    { name := "bank.State", kind := .enumeration, constants := ["OPEN"] }]

/-- The till keeps the converters of all its columns. -/
theorem tillManifest_keeps_converters :
    ∃ table, (Mapping.ofManifest tillManifest).tables = .ok [table] ∧
      table.columns.length = 3 ∧
      ∀ column ∈ table.columns, ∀ converter, column.converter = some converter →
        converter ∈ table.converters := by
  let rate : Converter := ⟨"fx.Rate", "long", "sum.Money", false⟩
  let listed := [rate, rate, QueryLibrary.jooq.enumDefault "bank.State"]
  obtain ⟨columns, made, shown⟩ := exists_ok_and
    (show ((Mapping.ofManifest tillManifest).columnsOf tillManifest.classes[0] {}).toOption.any
        (fun columns => columns.map (·.name) == ["closed", "opened", "state"] &&
          columns.map (·.converter) == listed.map some) = true by
      decide +kernel)
  obtain ⟨names, converters⟩ := Bool.and_eq_true_iff.mp shown
  have ascending : columns.Pairwise fun a b => a.name ≤ b.name :=
    List.pairwise_map.mp (beq_iff_eq.mp names ▸ by decide +kernel)
  obtain ⟨table, built, rfl, _⟩ := Mapping.tables_of_columnsOf rfl rfl (by decide) made ascending
  have count := congrArg List.length (beq_iff_eq.mp names)
  rw [List.length_map] at count
  refine ⟨table, built, count,
    (equal_converters tillManifest [table] table built List.mem_cons_self).2.mpr ?_⟩
  have apart : ∀ first ∈ listed, ∀ second ∈ listed, first.same second = true → first = second := by
    decide +kernel
  have known (column : Column) (member : column ∈ table.columns) (converter : Converter)
      (converts : column.converter = some converter) : converter ∈ listed := by
    have among : column.converter ∈ listed.map some :=
      beq_iff_eq.mp converters ▸ List.mem_map_of_mem member
    simpa [converts] using among
  intro a ofA b ofB first second converts converts' confused
  exact confused.ne (apart first (known a ofA first converts) second (known b ofB second converts')
    confused.same)

/-- A ledger with two rates whose names run into their targets, and a state that is stored as a number
in one field and as usual in another. -/
def ledgerText : String := "[converters]
'fx.Rate'=['long','sum.Money']
'fx.Rates'=['int','um.Money']
'org.jooq.impl.EnumConverter'=['int','bank.State']
[[classes]]
name='bank.Ledger'
table=[]
[[classes.fields]]
name='opened'
type='sum.Money'
column.converter='fx.Rate'
[[classes.fields]]
name='rate'
type='um.Money'
column.converter='fx.Rates'
[[classes.fields]]
name='state'
type='bank.State'
column.converter='org.jooq.impl.EnumConverter'
[[classes.fields]]
name='status'
type='bank.State'
[[classes]]
name='bank.State'
kind='enum'
constants=['OPEN']
"

def ledgerManifest : Manifest where
  converters := [
    ("fx.Rate", { fromType := "long", toType := "sum.Money" }),
    ("fx.Rates", { fromType := "int", toType := "um.Money" }),
    ("org.jooq.impl.EnumConverter", { fromType := "int", toType := "bank.State" })]
  classes := [
    { name := "bank.Ledger"
      table := some {}
      fields := [
        { name := "opened", type := "sum.Money", column := some { converter := some "fx.Rate" } },
        { name := "rate", type := "um.Money", column := some { converter := some "fx.Rates" } },
        { name := "state", type := "bank.State",
          column := some { converter := some "org.jooq.impl.EnumConverter" } },
        { name := "status", type := "bank.State" }] },
    { name := "bank.State", kind := .enumeration, constants := ["OPEN"] }]

set_option maxRecDepth 4000 in
open MapperPart (converterFields) in
/-- The ledger has two converters of one key with different names, targets and stored types, and two
that differ in what they store and in being generic. Of the first two, only one is declared as a
constant, and the constant that columns with the other refer to is not. -/
theorem ledgerManifest_confuses_converters :
    Manifest.parse ledgerText "ledger.toml" = .ok ledgerManifest ∧
      ∃ table, (Mapping.ofManifest ledgerManifest).tables = .ok [table] ∧
        table.mappingEnabled = true ∧
        (∃ a ∈ table.columns, ∃ b ∈ table.columns, ∃ first second, a.converter = some first ∧
          b.converter = some second ∧ first.same second = true ∧
          first.converterType ≠ second.converterType ∧ first.toType ≠ second.toType ∧
          first.fromType ≠ second.fromType ∧
          ∀ case : LetterCase, MapperContext.converterConstant { strategy := case.snake } table first ∉
            (converterFields { strategy := case.snake } table).map (·.name)) ∧
        ∃ a ∈ table.columns, ∃ b ∈ table.columns, ∃ first second, a.converter = some first ∧
          b.converter = some second ∧ first.same second = true ∧
          first.fromType ≠ second.fromType ∧ first.generic ≠ second.generic := by
  let rate : Converter := ⟨"fx.Rate", "long", "sum.Money", false⟩
  let rates : Converter := ⟨"fx.Rates", "int", "um.Money", false⟩
  let state : Converter := ⟨"org.jooq.impl.EnumConverter", "int", "bank.State", false⟩
  let status := QueryLibrary.jooq.enumDefault "bank.State"
  let listed := [rate, rates, state, status]
  obtain ⟨columns, made, shown⟩ := exists_ok_and
    (show ((Mapping.ofManifest ledgerManifest).columnsOf ledgerManifest.classes[0] {}).toOption.any
        (fun columns => columns.map (·.name) == ["opened", "rate", "state", "status"] &&
          columns.map (·.converter) == listed.map some &&
          Converter.distinct (columns.filterMap (·.converter)).reverse == [rates, status]) = true by
      decide +kernel)
  simp only [Bool.and_eq_true, beq_iff_eq] at shown
  obtain ⟨⟨names, converters⟩, kept⟩ := shown
  have ascending : columns.Pairwise fun a b => a.name ≤ b.name :=
    List.pairwise_map.mp (names ▸ by decide +kernel)
  obtain ⟨table, built, rfl, enabled⟩ :=
    Mapping.tables_of_columnsOf rfl rfl (by decide) made ascending
  have found (converter : Converter) (inListed : converter ∈ listed) :
      ∃ column ∈ table.columns, column.converter = some converter :=
    List.mem_map.mp (converters ▸ List.mem_map_of_mem inListed)
  obtain ⟨opened, ofOpened, byRate⟩ := found rate (by decide)
  obtain ⟨rated, ofRated, byRates⟩ := found rates (by decide)
  obtain ⟨stated, ofStated, byState⟩ := found state (by decide)
  obtain ⟨plain, ofPlain, byStatus⟩ := found status (by decide)
  refine ⟨Manifest.parse_ofList (by decide +kernel) (by decide +kernel), table, built, enabled,
    ⟨opened, ofOpened, rated, ofRated, rate, rates, byRate, byRates, by decide, by decide,
      by decide, by decide, fun case => ?_⟩,
    stated, ofStated, plain, ofPlain, state, status, byState, byStatus, by decide, by decide,
    by decide⟩
  have two : table.converters = [rates, status] := kept
  rw [MapperPart.converterFields_names, two, List.map_cons, List.map_singleton]
  simp only [MapperContext.converterConstant_eq, two]
  cases case <;> decide +kernel

end EntityMapper
