import EntityMapper.Proofs.Extraction.Build

/-!
# Columns of several levels

The levels of a table are joined from below: a column joins unless its name is there already. So
the columns of all levels are those whose name no lower level has (`mem_foldl_joinLevel`), and
differ in name (`nodup_foldl_joinLevel`).
-/
namespace EntityMapper

/-- The columns with those of a higher level that bring new names. -/
def joinLevel (columns level : List Column) : List Column :=
  columns ++ level.filter fun column => columns.all (·.name != column.name)

theorem mem_joinLevel {columns level : List Column} {column : Column} :
    column ∈ joinLevel columns level ↔
      column ∈ columns ∨ column ∈ level ∧ column.name ∉ columns.map (·.name) := by
  simp only [joinLevel, List.mem_append, List.mem_filter, List.all_eq_true, bne_iff_ne, List.mem_map,
    not_exists, not_and, ne_eq]

theorem mem_names_joinLevel {columns level : List Column} {name : String} :
    name ∈ (joinLevel columns level).map (·.name) ↔
      name ∈ columns.map (·.name) ∨ name ∈ level.map (·.name) := by
  simp only [List.mem_map, mem_joinLevel]
  constructor
  · rintro ⟨column, old | ⟨fresh, _⟩, rfl⟩
    · exact .inl ⟨column, old, rfl⟩
    · exact .inr ⟨column, fresh, rfl⟩
  · rintro (⟨column, old, rfl⟩ | ⟨column, member, rfl⟩)
    · exact ⟨column, .inl old, rfl⟩
    · by_cases known : ∃ other ∈ columns, other.name = column.name
      · obtain ⟨other, old, same⟩ := known
        exact ⟨other, .inl old, same⟩
      · exact ⟨column, .inr ⟨member, known⟩, rfl⟩

theorem nodup_joinLevel {columns level : List Column} (distinct : (columns.map (·.name)).Nodup)
    (own : (level.map (·.name)).Nodup) : ((joinLevel columns level).map (·.name)).Nodup := by
  rw [joinLevel, List.map_append, List.nodup_append']
  refine ⟨distinct, own.sublist (List.filter_sublist.map _), fun name old fresh => ?_⟩
  obtain ⟨column, member, rfl⟩ := List.mem_map.mp fresh
  obtain ⟨other, inColumns, same⟩ := List.mem_map.mp old
  have differs := List.all_eq_true.mp (List.mem_filter.mp member).2 other inColumns
  simp [same] at differs

/-- Levels that differ in name within themselves give columns that differ in name. -/
theorem nodup_foldl_joinLevel {own : List (List Column)} {columns : List Column}
    (distinct : (columns.map (·.name)).Nodup) (levels : ∀ level ∈ own, (level.map (·.name)).Nodup) :
    ((own.foldl joinLevel columns).map (·.name)).Nodup := by
  induction own generalizing columns with
  | nil => exact distinct
  | cons level rest ih =>
    obtain ⟨first, others⟩ := List.forall_mem_cons.mp levels
    exact ih (nodup_joinLevel distinct first) others

/-- A column of some level is among all of them when no lower level has its name. -/
theorem mem_foldl_joinLevel {own : List (List Column)} {columns : List Column} {column : Column} :
    column ∈ own.foldl joinLevel columns ↔
      column ∈ columns ∨ column.name ∉ columns.map (·.name) ∧
        ∃ lower level upper, own = lower ++ level :: upper ∧ column ∈ level ∧
          ∀ below ∈ lower, column.name ∉ below.map (·.name) := by
  induction own generalizing columns with
  | nil => simp
  | cons first rest ih =>
    rw [List.foldl_cons, ih, mem_joinLevel, mem_names_joinLevel, not_or]
    constructor
    · rintro ((old | ⟨member, fresh⟩) | ⟨⟨fresh, unmet⟩, lower, level, upper, rfl, member, free⟩)
      · exact .inl old
      · exact .inr ⟨fresh, [], first, rest, rfl, member, by simp⟩
      · exact .inr ⟨fresh, first :: lower, level, upper, rfl, member,
          List.forall_mem_cons.mpr ⟨unmet, free⟩⟩
    · rintro (old | ⟨fresh, lower, level, upper, split, member, free⟩)
      · exact .inl (.inl old)
      · cases lower with
        | nil =>
          obtain ⟨rfl, rfl⟩ := List.cons.inj split
          exact .inl (.inr ⟨member, fresh⟩)
        | cons below lower =>
          obtain ⟨rfl, rfl⟩ := List.cons.inj split
          obtain ⟨unmet, free⟩ := List.forall_mem_cons.mp free
          exact .inr ⟨⟨fresh, unmet⟩, lower, level, upper, rfl, member, free⟩

/-- A table has the columns of its levels, each built on its own, joined from below. -/
theorem ColumnFrame.ofLevels_eq_ok {frame : ColumnFrame} {levels : List (List Visit)}
    {before columns : List Column} :
    frame.ofLevels before levels = .ok columns ↔
      ∃ own, List.Forall₂ (fun visits level => frame.ofLevel visits = .ok level) levels own ∧
        columns = own.foldl joinLevel before := by
  induction levels generalizing before with
  | nil =>
    rw [ofLevels, pure_eq_ok]
    simp [eq_comm]
  | cons visits rest ih =>
    rw [ofLevels, bind_eq_ok]
    constructor
    · rintro ⟨level, made, built⟩
      obtain ⟨own, others, rfl⟩ := ih.mp built
      exact ⟨level :: own, .cons made others, rfl⟩
    · rintro ⟨own, made, rfl⟩
      obtain ⟨level, own, first, others, rfl⟩ := List.forall₂_cons_left_iff.mp made
      exact ⟨level, first, ih.mpr ⟨own, others, rfl⟩⟩

/-- The columns of a table differ in name. -/
theorem ColumnFrame.ofLevels_nodup {frame : ColumnFrame} {levels : List (List Visit)}
    {columns : List Column} (built : frame.ofLevels [] levels = .ok columns) :
    (columns.map (·.name)).Nodup := by
  obtain ⟨own, made, rfl⟩ := ofLevels_eq_ok.mp built
  refine nodup_foldl_joinLevel List.nodup_nil fun level member => ?_
  obtain ⟨visits, _, single⟩ := exists_of_forall₂ made member
  exact (ofLevel_eq_ok single).2

end EntityMapper
