/-!
# Lists kept ascending by a text key

A set of values identified by a key, held as a list whose keys strictly ascend. Of several
values with one key the first one inserted stays.
-/
namespace EntityMapper.Ascending

variable {α : Type}

/-- Puts `a` where its key belongs; a value whose key is present is dropped. -/
def insert (key : α → String) (a : α) : List α → List α
  | [] => [a]
  | b :: rest =>
    if key a < key b then a :: b :: rest
    else if key a = key b then b :: rest
    else b :: insert key a rest

def ofList (key : α → String) (values : List α) : List α :=
  values.foldl (fun acc a => insert key a acc) []

/-- The keys strictly ascend. -/
def Sorted (key : α → String) (values : List α) : Prop :=
  values.Pairwise (fun a b => key a < key b)

theorem mem_insert {key : α → String} {a b : α} {values : List α}
    (member : b ∈ insert key a values) : b = a ∨ b ∈ values := by
  induction values with
  | nil => simpa [insert] using member
  | cons c rest ih =>
    unfold insert at member
    split at member
    · simpa using member
    · split at member
      · exact .inr member
      · rcases List.mem_cons.mp member with same | tail
        · simp [same]
        · rcases ih tail with fresh | old
          · exact .inl fresh
          · exact .inr (List.mem_cons_of_mem _ old)

theorem sorted_insert (key : α → String) (a : α) {values : List α} (sorted : Sorted key values) :
    Sorted key (insert key a values) := by
  induction values with
  | nil => simp [insert, Sorted]
  | cons b rest ih =>
    obtain ⟨headLess, tailSorted⟩ := List.pairwise_cons.mp sorted
    unfold insert
    split
    · rename_i less
      refine List.pairwise_cons.mpr ⟨fun c member => ?_, sorted⟩
      rcases List.mem_cons.mp member with same | tail
      · exact same ▸ less
      · exact String.lt_trans less (headLess c tail)
    · split
      · exact sorted
      · rename_i notLess differs
        have greater : key b < key a :=
          Std.lt_of_le_of_ne (String.not_lt.mp notLess) (Ne.symm differs)
        refine List.pairwise_cons.mpr ⟨fun c member => ?_, ih tailSorted⟩
        rcases mem_insert member with same | old
        · exact same ▸ greater
        · exact headLess c old

theorem sorted_foldl_insert (key : α → String) (values : List α) {start : List α}
    (sorted : Sorted key start) :
    Sorted key (values.foldl (fun acc a => insert key a acc) start) := by
  induction values generalizing start with
  | nil => exact sorted
  | cons a rest ih => exact ih (sorted_insert key a sorted)

/-- Whatever the order of the values, the list has strictly ascending keys. -/
theorem sorted_ofList (key : α → String) (values : List α) : Sorted key (ofList key values) :=
  sorted_foldl_insert key values List.Pairwise.nil

/-- A key has a value once one of that key has been inserted. -/
theorem exists_mem_insert {key : α → String} {a : α} {values : List α} {asked : String} :
    (∃ b ∈ insert key a values, key b = asked) ↔ key a = asked ∨ ∃ b ∈ values, key b = asked := by
  induction values with
  | nil => simp [insert]
  | cons c rest ih =>
    unfold insert
    split
    · simp
    · split
      · rename_i same
        simp [same]
      · simp only [List.mem_cons, or_and_right, exists_or, exists_eq_left, ih]
        exact or_left_comm

theorem exists_mem_foldl_insert {key : α → String} {values start : List α} {asked : String} :
    (∃ b ∈ values.foldl (fun acc a => insert key a acc) start, key b = asked) ↔
      (∃ b ∈ start, key b = asked) ∨ ∃ b ∈ values, key b = asked := by
  induction values generalizing start with
  | nil => simp
  | cons a rest ih =>
    simp only [List.foldl_cons, ih, exists_mem_insert, List.mem_cons, or_and_right, exists_or,
      exists_eq_left, or_assoc]
    exact or_left_comm

/-- The keys of the list are those of the values. -/
theorem exists_mem_ofList {key : α → String} {values : List α} {asked : String} :
    (∃ b ∈ ofList key values, key b = asked) ↔ ∃ b ∈ values, key b = asked := by
  rw [ofList, exists_mem_foldl_insert]
  simp

theorem mem_of_mem_foldl_insert {key : α → String} {values start : List α} {b : α}
    (member : b ∈ values.foldl (fun acc a => insert key a acc) start) : b ∈ start ∨ b ∈ values := by
  induction values generalizing start with
  | nil => exact .inl member
  | cons a rest ih =>
    rcases ih member with inserted | later
    · rcases mem_insert inserted with rfl | old
      · exact .inr List.mem_cons_self
      · exact .inl old
    · exact .inr (List.mem_cons_of_mem _ later)

/-- The list holds nothing but the values. -/
theorem mem_of_mem_ofList {key : α → String} {values : List α} {b : α}
    (member : b ∈ ofList key values) : b ∈ values :=
  (mem_of_mem_foldl_insert member).resolve_left List.not_mem_nil

theorem insert_eq_cons {key : α → String} {a : α} {values : List α}
    (first : ∀ b ∈ values, key a < key b) : insert key a values = a :: values := by
  cases values with
  | nil => rfl
  | cons b rest => rw [insert, if_pos (first b List.mem_cons_self)]

/-- Values that ascend already all stay, here inserted from the last one on. -/
theorem ofList_reverse {key : α → String} {values : List α} (sorted : Sorted key values) :
    ofList key values.reverse = values := by
  rw [ofList, List.foldl_reverse]
  induction values with
  | nil => rfl
  | cons a rest ih =>
    obtain ⟨first, ascending⟩ := List.pairwise_cons.mp sorted
    rw [List.foldr_cons, ih ascending, insert_eq_cons first]

end EntityMapper.Ascending
