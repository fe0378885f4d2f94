import EntityMapper.Extraction.FieldPath
import Mathlib.Data.List.Nodup

/-!
# Variables of several types

A variable is a base name and a number with nothing between them. The numbers of one base name
differ, so two variables can be the same only where one base name is the other with digits added,
which then stand in front of the number (`named_eq`). Whether that happens is settled by how
often the shorter base name occurs (`nodup_allocateAll`).
-/
namespace EntityMapper

theorem digits_injective {first second : Nat}
    (same : Nat.toDigits 10 first = Nat.toDigits 10 second) : first = second := by
  have values := congrArg (Nat.ofDigitChars 10 · 0) same
  simpa [Nat.ofDigitChars_toDigits] using values

/-- Decimals that end in those of a positive number have those of another one in front of them. -/
theorem exists_leading_digits {number low : Nat} {front : List Char} (positive : 0 < low)
    (nonempty : front ≠ []) (same : Nat.toDigits 10 number = front ++ Nat.toDigits 10 low) :
    ∃ leading, 0 < leading ∧ front = Nat.toDigits 10 leading ∧ 10 * leading < number := by
  -- Both numbers lose their last digit until the lower one has a single digit.
  induction low using Nat.strongRecOn generalizing number with
  | ind low ih =>
    have several : 10 ≤ number := by
      by_contra single
      rw [Nat.toDigits_of_lt_base (by omega)] at same
      have counted := congrArg List.length same
      have some := List.length_pos_iff.mpr nonempty
      have more := List.length_pos_iff.mpr (Nat.toDigits_ne_nil (b := 10) (n := low))
      simp only [List.length_singleton, List.length_append] at counted
      omega
    rw [Nat.toDigits_of_base_le (by omega) several] at same
    by_cases last : low < 10
    · rw [Nat.toDigits_of_lt_base last] at same
      obtain ⟨fronts, ends⟩ := List.append_inj' same rfl
      rw [← Nat.toDigits_of_lt_base last, ← Nat.toDigits_of_lt_base (Nat.mod_lt _ (by omega))] at ends
      have digit := digits_injective ends
      exact ⟨number / 10, by omega, fronts.symm, by omega⟩
    · rw [Nat.toDigits_of_base_le (n := low) (by omega) (by omega), ← List.append_assoc] at same
      obtain ⟨fronts, _⟩ := List.append_inj' same rfl
      obtain ⟨leading, some, digits, below⟩ := ih (low / 10) (by omega) (by omega) fronts
      exact ⟨leading, some, digits, by omega⟩

/-- The decimals of a positive number in front of a one. -/
theorem repr_append_one {leading : Nat} (positive : 0 < leading) :
    leading.repr ++ Nat.repr 1 = (10 * leading + 1).repr := by
  have digits := Nat.toDigits_append_toDigits (b := 10) (d := 1) (by omega) positive (by omega)
  rw [← String.toList_inj, String.toList_append, Nat.toList_repr, Nat.toList_repr, Nat.toList_repr,
    digits]

namespace Variables

/-- The variables once those of several types are handed out. -/
def after (vars : Variables) (typeNames : List String) : Variables :=
  typeNames.foldl (fun vars typeName => (vars.allocate typeName).2) vars

theorem allocateAll_append (vars : Variables) (first second : List String) :
    vars.allocateAll (first ++ second) =
      vars.allocateAll first ++ (vars.after first).allocateAll second := by
  induction first generalizing vars with
  | nil => rfl
  | cons typeName rest ih => exact congrArg ((vars.allocate typeName).1 :: ·) (ih _)

/-- The base name of the variables of a type. -/
def base (typeName : String) : String :=
  Java.decapitalize (Java.simpleName typeName)

/-- The variable with the given base name and number. -/
def named (entry : String × Nat) : String :=
  entry.1 ++ entry.2.repr

/-- Equal variables have the same base name and number, or one base name is the other with the
digits of some number added. -/
theorem named_eq {first second : String × Nat} (positive : 0 < first.2) (other : 0 < second.2)
    (same : named first = named second) :
    first = second ∨
      (∃ leading, 0 < leading ∧ first.1 = second.1 ++ leading.repr ∧ 10 * leading < second.2) ∨
      ∃ leading, 0 < leading ∧ second.1 = first.1 ++ leading.repr ∧ 10 * leading < first.2 := by
  -- The longer base name takes some of the digits of the other variable.
  have longer {long short : String × Nat} (positive : 0 < long.2) {front : List Char}
      (bases : long.1.toList = short.1.toList ++ front) (nonempty : front ≠ [])
      (digits : Nat.toDigits 10 short.2 = front ++ Nat.toDigits 10 long.2) :
      ∃ leading, 0 < leading ∧ long.1 = short.1 ++ leading.repr ∧ 10 * leading < short.2 := by
    obtain ⟨leading, some, rfl, below⟩ := exists_leading_digits positive nonempty digits
    refine ⟨leading, some, ?_, below⟩
    rw [← String.toList_inj, String.toList_append, Nat.toList_repr, bases]
  have lists := congrArg String.toList same
  simp only [named, String.toList_append, Nat.toList_repr] at lists
  rcases List.append_eq_append_iff.mp lists with ⟨front, bases, digits⟩ | ⟨front, bases, digits⟩
  · rcases eq_or_ne front [] with rfl | nonempty
    · rw [List.append_nil, String.toList_inj] at bases
      exact .inl (Prod.ext bases.symm (digits_injective digits))
    · exact .inr (.inr (longer other bases nonempty digits))
  · rcases eq_or_ne front [] with rfl | nonempty
    · rw [List.append_nil, String.toList_inj] at bases
      exact .inl (Prod.ext bases (digits_injective digits.symm))
    · exact .inr (.inl (longer positive bases nonempty digits))

/-- Base names in order, each with its number when the names in `taken` have had theirs. -/
def numbered : (taken : List String) → List String → List (String × Nat)
  | _, [] => []
  | taken, base :: rest => (base, taken.count base + 1) :: numbered (base :: taken) rest

theorem allocate_eq (vars : Variables) (typeName : String) :
    vars.allocate typeName =
      (named (base typeName, vars.taken.count (base typeName) + 1),
        ⟨base typeName :: vars.taken⟩) := by
  simp only [allocate, named, base]

theorem allocateAll_eq (typeNames : List String) (vars : Variables) :
    vars.allocateAll typeNames = (numbered vars.taken (typeNames.map base)).map named := by
  induction typeNames generalizing vars with
  | nil => rfl
  | cons typeName rest ih =>
    rw [allocateAll, allocate_eq, List.map_cons, numbered, List.map_cons]
    exact congrArg _ (ih _)

/-- The numbers of a base name go on from those it has had. -/
theorem mem_numbered {taken bases : List String} {name : String} {number : Nat} :
    (name, number) ∈ numbered taken bases ↔
      taken.count name < number ∧ number ≤ taken.count name + bases.count name := by
  induction bases generalizing taken with
  | nil => simp [numbered]
  | cons base rest ih =>
    rw [numbered, List.mem_cons, ih, List.count_cons, List.count_cons, Prod.mk.injEq]
    by_cases same : base = name
    · subst same
      simp
      omega
    · simp [same, Ne.symm same]

theorem nodup_numbered (taken bases : List String) : (numbered taken bases).Nodup := by
  induction bases generalizing taken with
  | nil => exact List.nodup_nil
  | cons base rest ih =>
    refine List.nodup_cons.mpr ⟨fun member => ?_, ih (base :: taken)⟩
    have later := (mem_numbered.mp member).1
    simp at later

theorem map_fst_numbered (taken bases : List String) :
    (numbered taken bases).map Prod.fst = bases := by
  induction bases generalizing taken with
  | nil => rfl
  | cons base rest ih => rw [numbered, List.map_cons, ih]

/-- Variables of one base name differ in number. -/
theorem named_injective {first second : String × Nat} (bases : first.1 = second.1)
    (same : named first = named second) : first = second := by
  have lists := congrArg String.toList same
  simp only [named, String.toList_append, Nat.toList_repr, bases] at lists
  exact Prod.ext bases (digits_injective (List.append_cancel_left lists))

/-- No type has one variable twice. -/
theorem nodup_zip_allocateAll (typeNames : List String) (vars : Variables) :
    (typeNames.zip (vars.allocateAll typeNames)).Nodup := by
  let entries := numbered vars.taken (typeNames.map base)
  have bases : typeNames.map base = entries.map Prod.fst := (map_fst_numbered _ _).symm
  have keyed : (entries.map fun entry => (entry.1, named entry)).Nodup := by
    refine (nodup_numbered _ _).map fun first second same => ?_
    obtain ⟨baseNames, varNames⟩ := Prod.mk.inj same
    exact named_injective baseNames varNames
  refine List.Nodup.of_map (Prod.map base id) ?_
  rw [← List.zip_map_left, bases, allocateAll_eq, List.zip_map']
  exact keyed

/-- A base name followed by digits occurs only beside few enough of that base name: the variables
of the shorter one have no number yet that begins with those digits. -/
def Apart (bases : List String) : Prop :=
  ∀ name leading, 0 < leading → name ++ Nat.repr leading ∈ bases → bases.count name ≤ 10 * leading

/-- The variables of several types differ exactly when their base names are apart. -/
theorem nodup_allocateAll (typeNames : List String) :
    (allocateAll typeNames {}).Nodup ↔ Apart (typeNames.map base) := by
  have entries {name : String} {number : Nat} :
      (name, number) ∈ numbered [] (typeNames.map base) ↔
        0 < number ∧ number ≤ (typeNames.map base).count name := by
    simp [mem_numbered]
  rw [allocateAll_eq, List.nodup_map_iff_inj_on (nodup_numbered _ _)]
  constructor
  · -- The first variable of the longer base name is one of the shorter.
    intro distinct name leading positive occurs
    by_contra many
    have longer := entries.mpr ⟨Nat.one_pos, List.count_pos_iff.mpr occurs⟩
    have shorter : (name, 10 * leading + 1) ∈ numbered [] (typeNames.map base) :=
      entries.mpr ⟨Nat.succ_pos _, by omega⟩
    have same := distinct _ longer _ shorter (by
      rw [named, named, String.append_assoc]
      exact congrArg (name ++ ·) (repr_append_one positive))
    have numbers := congrArg Prod.snd same
    simp at numbers
    omega
  · intro apart first inFirst second inSecond same
    obtain ⟨positive, bounded⟩ := entries.mp inFirst
    obtain ⟨other, otherBounded⟩ := entries.mp inSecond
    rcases named_eq positive other same with equal | ⟨leading, some, longer, below⟩ |
      ⟨leading, some, longer, below⟩
    · exact equal
    · have occurs := List.count_pos_iff.mp (Nat.lt_of_lt_of_le positive bounded)
      have few := apart second.1 leading some (longer ▸ occurs)
      omega
    · have occurs := List.count_pos_iff.mp (Nat.lt_of_lt_of_le other otherBounded)
      have few := apart first.1 leading some (longer ▸ occurs)
      omega

theorem after_taken (vars : Variables) (typeNames : List String) :
    (vars.after typeNames).taken = (typeNames.map base).reverse ++ vars.taken := by
  induction typeNames generalizing vars with
  | nil => rfl
  | cons typeName rest ih =>
    rw [List.map_cons, List.reverse_cons, List.append_assoc]
    exact ih (vars.allocate typeName).2

theorem apart_perm {first second : List String} (same : first.Perm second) :
    Apart first ↔ Apart second := by
  simp only [Apart, same.mem_iff, same.count_eq]

/-- The last character of a variable is a digit. -/
theorem getLast?_named (entry : String × Nat) :
    ∃ digit, (named entry).toList.getLast? = some digit ∧ digit.isDigit = true := by
  have some := Nat.toDigits_ne_nil (b := 10) (n := entry.2)
  refine ⟨(Nat.toDigits 10 entry.2).getLast some, ?_,
    Nat.isDigit_of_mem_toDigits (by omega) (by omega) (List.getLast_mem some)⟩
  rw [named, String.toList_append, Nat.toList_repr, List.getLast?_append_of_ne_nil _ some,
    List.getLast?_eq_some_getLast some]

/-- Base names that end in no digit are apart. -/
theorem apart_of_letters {bases : List String}
    (letters : ∀ name ∈ bases, name.toList.getLast?.any (·.isDigit) = false) : Apart bases := by
  intro name leading _ occurs
  obtain ⟨digit, last, isDigit⟩ := getLast?_named (name, leading)
  have letter : (some digit).any (·.isDigit) = false := last ▸ letters _ occurs
  rw [Option.any_some, isDigit] at letter
  cases letter

/-- Each type's variable is its base name with a number. -/
theorem allocateAll_numbered (typeNames : List String) (vars : Variables) :
    List.Forall₂ (fun typeName varName => ∃ number, varName = named (base typeName, number))
      typeNames (vars.allocateAll typeNames) := by
  induction typeNames generalizing vars with
  | nil => exact .nil
  | cons typeName rest ih =>
    rw [allocateAll, allocate_eq]
    exact .cons ⟨_, rfl⟩ (ih _)

end Variables

end EntityMapper
