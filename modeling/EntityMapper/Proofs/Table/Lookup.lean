import EntityMapper.Table.Basic
import Mathlib.Data.List.Nodup
import Mathlib.Data.List.Perm.Basic

/-!
# Columns found by name

A table halves its ascending columns until one is left, and takes it if it has the name asked for.
That finds the last column of the name (`Table.column?_eq_getLast?`); where names differ it is the
only one (`Table.column?_eq_some_iff`).
-/
namespace EntityMapper.Table

/-- Where the upper columns start at or before a name that one of the lower columns has, the first
of the upper ones has it too. -/
theorem filter_lower_eq_nil {name : String} {lower upper : List Column}
    (apart : ∀ a ∈ lower, ∀ b ∈ upper, a.name ≤ b.name)
    (starts : upper.head?.any (fun column => decide (column.name ≤ name)) = true)
    (absent : upper.filter (·.name == name) = []) : lower.filter (·.name == name) = [] := by
  cases upper with
  | nil => simp at starts
  | cons first rest =>
    have below : first.name ≤ name := by simpa using starts
    refine List.filter_eq_nil_iff.mpr fun column member named => ?_
    have between := apart column member first List.mem_cons_self
    rw [beq_iff_eq.mp named] at between
    have same : first.name = name := String.le_antisymm below between
    exact List.filter_eq_nil_iff.mp absent first List.mem_cons_self (beq_iff_eq.mpr same)

/-- Where the upper columns start after a name, none of them has it. -/
theorem filter_upper_eq_nil {name : String} {upper : List Column}
    (sorted : upper.Pairwise (fun a b => a.name ≤ b.name))
    (starts : ¬ upper.head?.any (fun column => decide (column.name ≤ name)) = true) :
    upper.filter (·.name == name) = [] := by
  cases upper with
  | nil => rfl
  | cons first rest =>
    have above : ¬ first.name ≤ name := by simpa using starts
    refine List.filter_eq_nil_iff.mpr fun column member named => above ?_
    rw [← beq_iff_eq.mp named]
    rcases List.mem_cons.mp member with rfl | later
    · exact String.le_refl _
    · exact (List.pairwise_cons.mp sorted).1 column later

/-- Halving keeps the columns of a name, if there are any, and ends at the last of them. -/
theorem bisect_eq_getLast? {name : String} {columns : List Column}
    (sorted : columns.Pairwise (fun a b => a.name ≤ b.name)) :
    (bisect name columns).filter (·.name == name) =
      (columns.filter (·.name == name)).getLast? := by
  fun_induction bisect name columns with
  | case1 columns short =>
    match columns with
    | [] => rfl
    | [column] => by_cases named : column.name = name <;> simp [named]
    | _ :: _ :: _ =>
      simp only [List.length_cons] at short
      omega
  | case2 columns long starts ih =>
    have halves := List.take_append_drop (columns.length / 2) columns
    rw [← halves] at sorted
    obtain ⟨_, upperSorted, apart⟩ := List.pairwise_append.mp sorted
    rw [ih upperSorted]
    nth_rewrite 3 [← halves]
    rw [List.filter_append, List.getLast?_append]
    cases last : (List.filter (·.name == name) (columns.drop (columns.length / 2))).getLast? with
    | some column => rfl
    | none =>
      rw [filter_lower_eq_nil apart starts (List.getLast?_eq_none_iff.mp last)]
      rfl
  | case3 columns long starts ih =>
    have halves := List.take_append_drop (columns.length / 2) columns
    rw [← halves] at sorted
    obtain ⟨lowerSorted, upperSorted, _⟩ := List.pairwise_append.mp sorted
    rw [ih lowerSorted]
    nth_rewrite 3 [← halves]
    rw [List.filter_append, filter_upper_eq_nil upperSorted starts, List.append_nil]

theorem column?_eq_getLast? (table : Table) (name : String) :
    table.column? name = (table.columns.filter (·.name == name)).getLast? :=
  bisect_eq_getLast? table.columns_sorted

/-- Where names differ, the look-up finds the column of the name, if there is one. -/
theorem column?_eq_some_iff {table : Table} (distinct : (table.columns.map (·.name)).Nodup)
    (name : String) (column : Column) :
    table.column? name = some column ↔ column ∈ table.columns ∧ column.name = name := by
  rw [column?_eq_getLast?]
  constructor
  · intro last
    obtain ⟨member, named⟩ := List.mem_filter.mp (List.mem_of_getLast? last)
    exact ⟨member, beq_iff_eq.mp named⟩
  · rintro ⟨member, rfl⟩
    cases last : (table.columns.filter (·.name == column.name)).getLast? with
    | none =>
      have absent := List.filter_eq_nil_iff.mp (List.getLast?_eq_none_iff.mp last) column member
      simp at absent
    | some found =>
      obtain ⟨inTable, named⟩ := List.mem_filter.mp (List.mem_of_getLast? last)
      rw [List.inj_on_of_nodup_map distinct inTable member (beq_iff_eq.mp named)]

/-- Columns that differ in name stand strictly ascending in a table. -/
theorem ofColumns_ascending {columns : List Column} (distinct : (columns.map (·.name)).Nodup)
    (schema : SchemaName) (name className : String) (mappingEnabled : Bool) :
    (ofColumns schema name className mappingEnabled columns).columns.Pairwise
      (fun a b => a.name < b.name) := by
  have sorted := (ofColumns schema name className mappingEnabled columns).columns_sorted
  have permuted := ofColumns_perm schema name className mappingEnabled columns
  have different := (permuted.map (·.name)).nodup_iff.mpr distinct
  exact sorted.imp₂ (fun _ _ le ne => Std.lt_of_le_of_ne le ne) (List.pairwise_map.mp different)

/-- Embedded and direct columns are parts of the columns in their order, and together all of
them. -/
theorem embedded_direct_perm (table : Table) :
    (table.embeddedColumns ++ table.directColumns).Perm table.columns :=
  List.filter_append_perm _ _

end EntityMapper.Table
