/-!
# Named entries in insertion order

A list of name and value pairs read as a map: the first entry of a name is its value.
Inserting under a name that is present replaces the value where it stands, so the order is that
of first insertion.
-/
namespace EntityMapper

abbrev Entries (α : Type) := List (String × α)

namespace Entries

def get? {α : Type} (entries : Entries α) (name : String) : Option α :=
  List.lookup name entries

def contains {α : Type} (entries : Entries α) (name : String) : Bool :=
  (entries.get? name).isSome

/-- Replaces the value in place, or appends a new entry. -/
def insert {α : Type} (name : String) (value : α) : Entries α → Entries α
  | [] => [(name, value)]
  | (other, old) :: rest =>
    if other = name then (name, value) :: rest else (other, old) :: insert name value rest

def erase {α : Type} (entries : Entries α) (name : String) : Entries α :=
  entries.filter (·.1 != name)

def names {α : Type} (entries : Entries α) : List String :=
  entries.map (·.1)

def values {α : Type} (entries : Entries α) : List α :=
  entries.map (·.2)

theorem get?_cons {α : Type} (other : String) (value : α) (rest : Entries α) (name : String) :
    get? ((other, value) :: rest) name = if other = name then some value else get? rest name := by
  rw [get?, get?, List.lookup_cons]
  by_cases equal : other = name
  · simp [equal]
  · simp [equal, beq_false_of_ne (Ne.symm equal)]

/-- A name has the value inserted last; all other names keep theirs. -/
theorem get?_insert {α : Type} (entries : Entries α) (name : String) (value : α)
    (asked : String) :
    get? (Entries.insert name value entries) asked =
      if name = asked then some value else get? entries asked := by
  induction entries with
  | nil => rw [Entries.insert, get?_cons]
  | cons entry rest ih =>
    obtain ⟨other, old⟩ := entry
    by_cases equal : other = name
    · subst equal
      by_cases found : other = asked <;> simp [Entries.insert, get?_cons, found]
    · by_cases found : other = asked
      · subst found
        simp [Entries.insert, get?_cons, equal, Ne.symm equal]
      · simp [Entries.insert, get?_cons, equal, found, ih]

/-- An erased name has no value; all other names keep theirs. -/
theorem get?_erase {α : Type} (entries : Entries α) (name asked : String) :
    get? (erase entries name) asked = if name = asked then none else get? entries asked := by
  induction entries with
  | nil => simp [erase, get?]
  | cons entry rest ih =>
    obtain ⟨other, value⟩ := entry
    rw [erase] at ih
    by_cases erased : other = name
    · subst erased
      rw [erase, List.filter_cons_of_neg (by simp), ih, get?_cons]
      by_cases found : other = asked <;> simp [found]
    · rw [erase, List.filter_cons_of_pos (by simpa using erased), get?_cons, get?_cons, ih]
      by_cases found : other = asked
      · simp [found, Ne.symm (found ▸ erased)]
      · simp [found]

/-- Entries further on are asked only for names that the first ones lack. -/
theorem get?_append {α : Type} (first second : Entries α) (name : String) :
    get? (first ++ second) name = (get? first name <|> get? second name) := by
  induction first with
  | nil => simp [get?]
  | cons entry rest ih =>
    obtain ⟨other, value⟩ := entry
    rw [List.cons_append, get?_cons, get?_cons, ih]
    split <;> rfl

theorem get?_isSome {α : Type} (entries : Entries α) (name : String) :
    (entries.get? name).isSome = true ↔ name ∈ entries.names := by
  simp only [get?, List.lookup_isSome_iff, beq_iff_eq, names, List.mem_map]
  exact exists_congr fun entry => and_congr_right fun _ => eq_comm

theorem get?_eq_none {α : Type} {entries : Entries α} {name : String} :
    entries.get? name = none ↔ name ∉ entries.names := by
  rw [← Option.not_isSome_iff_eq_none, get?_isSome]

theorem mem_of_get? {α : Type} {entries : Entries α} {name : String} {value : α}
    (held : entries.get? name = some value) : (name, value) ∈ entries := by
  obtain ⟨before, after, rfl, _⟩ := List.lookup_eq_some_iff.mp held
  simp

/-- Names keep the position of their first insertion. -/
theorem names_insert {α : Type} (entries : Entries α) (name : String) (value : α) :
    (Entries.insert name value entries).names =
      if name ∈ entries.names then entries.names else entries.names ++ [name] := by
  induction entries with
  | nil => simp [Entries.insert, names]
  | cons entry rest ih =>
    obtain ⟨other, old⟩ := entry
    by_cases equal : other = name
    · subst equal
      simp [Entries.insert, names]
    · by_cases member : name ∈ rest.map (·.1) <;>
        simp_all [Entries.insert, names, Ne.symm equal]

end Entries

end EntityMapper
