import EntityMapper.Manifest.Locator
import EntityMapper.Proofs.Java.Name

/-!
# Names that a manifest may use

A name may be declared if it is an identifier and no reserved word; a class name has only such parts;
a type name is any qualified name with pairs of brackets behind it. The checks of a locator accept
exactly these (`checkName_eq_ok`, `checkQualifiedName_eq_ok`, `checkType_eq_ok`), wherever it looks.
-/
namespace EntityMapper

namespace Java

/-- A name that something may be declared under: an identifier that is no reserved word. -/
def IsDeclarable (name : String) : Prop :=
  isIdentifier name = true ∧ isReserved name = false

/-- Parts between points, of which each may be declared. -/
def IsClassName (name : String) : Prop :=
  ∀ part ∈ Text.segments '.' name, IsDeclarable part

/-- A qualified name, reserved words admitted, with any number of array dimensions. -/
def IsTypeName (type : String) : Prop :=
  ∃ element dimensions, isQualifiedName element = true ∧
    type = element ++ String.join (List.replicate dimensions "[]")

theorem isClassName_iff {name : String} :
    IsClassName name ↔
      isQualifiedName name = true ∧ ∀ part ∈ Text.segments '.' name, isReserved part = false := by
  rw [isQualifiedName, List.all_eq_true]
  exact forall₂_and

/-- The package of a class name may be declared like a class. -/
theorem isClassName_packageName {name : String} (declared : IsClassName name)
    (packaged : packageName name ≠ "") : IsClassName (packageName name) := by
  by_cases cut : '.' ∈ name.toList
  · have parts := segments_of_point_mem (isClassName_iff.mp declared).1 cut
    exact fun part member => declared part (parts ▸ List.mem_append_left _ member)
  · exact absurd (packageName_of_not_mem cut) packaged

theorem isDeclarable_simpleName {name : String} (declared : IsClassName name) :
    IsDeclarable (simpleName name) := by
  apply declared
  rw [segments_qualifiedName (isClassName_iff.mp declared).1]
  simp

/-- Characters that no identifier holds are in no class name, but for points. -/
theorem IsClassName.not_mem {name : String} (declared : IsClassName name) {c : Char} (other : c ≠ '.')
    (foreign : continuesIdentifier c = false) : c ∉ name.toList :=
  not_mem_of_isQualifiedName (isClassName_iff.mp declared).1 other foreign

/-- No identifier starts with a digit. -/
theorem startsIdentifier_of_isDigit {c : Char} (digit : c.isDigit = true) :
    startsIdentifier c = false := by
  have ascii : c.toNat < Text.asciiLimit := by
    rw [Char.isDigit, Bool.and_eq_true, decide_eq_true_iff, decide_eq_true_iff] at digit
    exact Nat.lt_of_le_of_lt digit.2 (by decide)
  exact Text.forall_ascii (p := fun c => c.isDigit = true → startsIdentifier c = false) (by decide) c
    ascii digit

end Java

namespace Locator

open Java (IsDeclarable IsClassName IsTypeName)

theorem identifierFault?_eq_none {name : String} :
    identifierFault? name = none ↔ Java.isIdentifier name = true := by
  rw [identifierFault?]
  constructor
  · intro faultless
    split at faultless
    · cases faultless
    · split at faultless
      · cases faultless
      · simpa using faultless
  · intro identifier
    have led := (Java.isIdentifier_iff.mp identifier).1
    have undigited : name.toList.head?.any Char.isDigit = false := by
      cases first : name.toList.head? with
      | none => rfl
      | some c =>
        rw [first, Option.any_some] at led
        rw [Option.any_some]
        by_contra digit
        rw [Java.startsIdentifier_of_isDigit (by simpa using digit)] at led
        cases led
    simp [Java.ne_empty_of_isIdentifier identifier, undigited, identifier]

theorem checkName_eq_ok {locator : Locator} {name kind : String} :
    locator.checkName name kind = .ok () ↔ IsDeclarable name := by
  rw [checkName, IsDeclarable]
  cases reserved : Java.isReserved name with
  | true => simp
  | false =>
    rw [← identifierFault?_eq_none]
    cases identifierFault? name <;> simp

theorem qualifiedNameFault?_eq_none {name : String} :
    qualifiedNameFault? name = none ↔ Java.isQualifiedName name = true := by
  rw [qualifiedNameFault?]
  constructor
  · intro faultless
    split at faultless
    · cases faultless
    · split at faultless
      · split at faultless <;> cases faultless
      · rename_i unmet
        simpa [Java.isQualifiedName] using List.find?_eq_none.mp unmet
  · intro qualified
    have filled : name ≠ "" := by
      rintro rfl
      cases qualified
    have unmet : (Text.segments '.' name).find? (!Java.isIdentifier ·) = none := by
      rw [List.find?_eq_none]
      intro part member
      simp [Java.isIdentifier_of_mem_segments qualified member]
    rw [if_neg filled, unmet]

theorem checkQualifiedName_eq_ok {locator : Locator} {name kind : String} :
    locator.checkQualifiedName name kind = .ok () ↔ IsClassName name := by
  rw [checkQualifiedName, Java.isClassName_iff, ← qualifiedNameFault?_eq_none]
  cases qualifiedNameFault? name with
  | some reason => simp
  | none =>
    cases met : (Text.segments '.' name).find? Java.isReserved with
    | some part => simpa using ⟨part, List.mem_of_find?_eq_some met, List.find?_some met⟩
    | none => simpa using List.find?_eq_none.mp met

theorem reverse_brackets (dimensions : Nat) :
    (String.join (List.replicate dimensions "[]")).toList.reverse =
      (List.replicate dimensions [']', '[']).flatten := by
  rw [String.toList_join, List.flatMap_replicate, List.reverse_flatten, List.map_replicate,
    List.reverse_replicate]
  rfl

/-- Brackets are cut off in pairs. -/
theorem exists_brackets (reversed : List Char) :
    ∃ dimensions, reversed =
      (List.replicate dimensions [']', '[']).flatten ++ elementType.go reversed := by
  fun_induction elementType.go reversed with
  | case1 rest ih =>
    obtain ⟨dimensions, split⟩ := ih
    refine ⟨dimensions + 1, ?_⟩
    rw [List.replicate_succ, List.flatten_cons, List.append_assoc, ← split]
    rfl
  | case2 name _ => exact ⟨0, rfl⟩

theorem go_brackets (dimensions : Nat) {reversed : List Char} (bare : ']' ∉ reversed) :
    elementType.go ((List.replicate dimensions [']', '[']).flatten ++ reversed) = reversed := by
  induction dimensions with
  | zero =>
    rw [List.replicate_zero, List.flatten_nil, List.nil_append, elementType.go]
    rintro rest rfl
    exact bare List.mem_cons_self
  | succ dimensions ih =>
    rw [List.replicate_succ, List.flatten_cons]
    exact ih

theorem exists_elementType (type : String) :
    ∃ dimensions, type = elementType type ++ String.join (List.replicate dimensions "[]") := by
  obtain ⟨dimensions, split⟩ := exists_brackets type.toList.reverse
  refine ⟨dimensions, String.toList_injective (List.reverse_injective ?_)⟩
  rw [String.toList_append, List.reverse_append, reverse_brackets, elementType,
    String.toList_ofList, List.reverse_reverse]
  exact split

theorem elementType_append {element : String} (dimensions : Nat) (bare : ']' ∉ element.toList) :
    elementType (element ++ String.join (List.replicate dimensions "[]")) = element := by
  rw [elementType, String.toList_append, List.reverse_append, reverse_brackets,
    go_brackets dimensions (by simpa using bare), List.reverse_reverse, String.ofList_toList]

theorem isType_iff {type : String} : isType type = true ↔ IsTypeName type := by
  rw [isType, Bool.and_eq_true, decide_eq_true_iff]
  constructor
  · rintro ⟨-, qualified⟩
    obtain ⟨dimensions, split⟩ := exists_elementType type
    exact ⟨elementType type, dimensions, qualified, split⟩
  · rintro ⟨element, dimensions, qualified, rfl⟩
    have bare := Java.not_mem_of_isQualifiedName qualified (c := ']') (by decide) (by decide)
    rw [elementType_append dimensions bare]
    refine ⟨?_, qualified⟩
    rintro rfl
    cases qualified

theorem checkType_eq_ok {locator : Locator} {type kind : String} :
    locator.checkType type kind = .ok () ↔ IsTypeName type := by
  rw [checkType, ← isType_iff]
  cases isType type <;> simp

end Locator

end EntityMapper
