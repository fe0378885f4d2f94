import EntityMapper.Manifest.Document
import EntityMapper.Proofs.Manifest.WellFormed

/-!
# Types that a manifest declares

The element of a type, which is left when all pairs of brackets are taken off, is to be a primitive or a
class name. The check of types asks only for a qualified name, and so lets one in that borrows a reserved
word (`Locator.checkType_agrees_iff`). Those apart, each type that a valid manifest declares has a
primitive or a class name as its element, boxed or not (`Manifest.WellFormed.accountsFor_boxed`).
-/
namespace EntityMapper

open Locator (elementType)

namespace Java

/-- What the element of a type is to be. -/
def IsElementName (name : String) : Prop :=
  isPrimitive name = true ∨ IsClassName name

/-- A qualified name that is no primitive and has a reserved word among its parts. -/
def BorrowsReserved (name : String) : Prop :=
  isQualifiedName name = true ∧ isPrimitive name = false ∧
    ∃ part ∈ Text.segments '.' name, isReserved part = true

instance : DecidablePred BorrowsReserved := fun name =>
  inferInstanceAs (Decidable (isQualifiedName name = true ∧ isPrimitive name = false ∧
    ∃ part ∈ Text.segments '.' name, isReserved part = true))

theorem exists_of_isPrimitive {name : String} (primitive : isPrimitive name = true) :
    ∃ entry ∈ primitives, entry.1 = name := by
  simpa [isPrimitive] using primitive

/-- Primitives are qualified names, of one reserved word each. -/
theorem isQualifiedName_of_isPrimitive {name : String} (primitive : isPrimitive name = true) :
    isQualifiedName name = true ∧ ∃ part ∈ Text.segments '.' name, isReserved part = true := by
  obtain ⟨entry, member, rfl⟩ := exists_of_isPrimitive primitive
  exact (show ∀ entry ∈ primitives, isQualifiedName entry.1 = true ∧
    ∃ part ∈ Text.segments '.' entry.1, isReserved part = true by decide) entry member

theorem IsClassName.unreserved {name : String} (named : IsClassName name) :
    ¬ ∃ part ∈ Text.segments '.' name, isReserved part = true := by
  rintro ⟨part, member, reserved⟩
  rw [(isClassName_iff.mp named).2 part member] at reserved
  cases reserved

theorem IsClassName.isPrimitive {name : String} (named : IsClassName name) :
    isPrimitive name = false :=
  Bool.eq_false_iff.mpr fun primitive =>
    named.unreserved (isQualifiedName_of_isPrimitive primitive).2

/-- A class is its own box. -/
theorem IsClassName.boxed {name : String} (named : IsClassName name) : boxed name = name := by
  rcases boxed_eq_or_mem name with own | box
  · exact own
  · have primitive : Java.isPrimitive name = true := List.any_eq_true.mpr ⟨_, box, beq_self_eq_true name⟩
    rw [named.isPrimitive] at primitive
    cases primitive

theorem BorrowsReserved.not_isElementName {name : String} (borrows : BorrowsReserved name) :
    ¬ IsElementName name := by
  obtain ⟨_, other, reserved⟩ := borrows
  rintro (primitive | named)
  · rw [other] at primitive
    cases primitive
  · exact named.unreserved reserved

/-- A qualified name can be an element, or borrows a reserved word. -/
theorem isQualifiedName_iff_element {name : String} :
    isQualifiedName name = true ↔ IsElementName name ∨ BorrowsReserved name := by
  constructor
  · intro qualified
    by_cases primitive : isPrimitive name = true
    · exact .inl (.inl primitive)
    · by_cases reserved : ∃ part ∈ Text.segments '.' name, isReserved part = true
      · exact .inr ⟨qualified, by simpa using primitive, reserved⟩
      · exact .inl (.inr (isClassName_iff.mpr ⟨qualified, by simpa using reserved⟩))
  · rintro ((primitive | named) | borrows)
    · exact (isQualifiedName_of_isPrimitive primitive).1
    · exact (isClassName_iff.mp named).1
    · exact borrows.1

end Java

open Java (IsElementName IsClassName BorrowsReserved)

namespace Locator

/-- What has no brackets is its own element. -/
theorem elementType_of_isQualifiedName {name : String} (qualified : Java.isQualifiedName name = true) :
    elementType name = name := by
  have bare := Java.not_mem_of_isQualifiedName qualified (c := ']') (by decide) (by decide)
  simpa using elementType_append 0 bare

theorem isType_iff_element {type : String} :
    isType type = true ↔ Java.isQualifiedName (elementType type) = true := by
  rw [isType, Bool.and_eq_true, decide_eq_true_iff, and_iff_right_iff_imp]
  intro qualified empty
  rw [empty] at qualified
  cases qualified

theorem checkType_eq_ok_iff {locator : Locator} {type kind : String} :
    locator.checkType type kind = .ok () ↔
      IsElementName (elementType type) ∨ BorrowsReserved (elementType type) := by
  rw [checkType_eq_ok, ← isType_iff, isType_iff_element, Java.isQualifiedName_iff_element]

/-- A type is accepted where its element is a primitive or accepted as a class name, unless the element
borrows a reserved word. -/
theorem checkType_agrees_iff {locator : Locator} {type kind : String} :
    (locator.checkType type kind = .ok () ↔
      Java.isPrimitive (elementType type) = true ∨
        locator.checkQualifiedName (elementType type) kind = .ok ()) ↔
      ¬ BorrowsReserved (elementType type) := by
  rw [checkType_eq_ok_iff, checkQualifiedName_eq_ok, ← IsElementName]
  constructor
  · intro agrees borrows
    exact borrows.not_isElementName (agrees.mp (.inr borrows))
  · intro own
    rw [or_iff_left own]

end Locator

namespace Manifest

/-- The types that converters and fields are declared with. -/
def declaredTypes (manifest : Manifest) : List String :=
  manifest.converters.flatMap (fun entry => [entry.2.fromType, entry.2.toType])
    ++ manifest.classes.flatMap fun decl => decl.fields.map (·.type)

/-- The name can be an element, or borrows a reserved word as the element of a declared type does. -/
def AccountsFor (manifest : Manifest) (name : String) : Prop :=
  IsElementName name ∨ ∃ type ∈ manifest.declaredTypes, elementType type = name ∧ BorrowsReserved name

variable {manifest : Manifest}

/-- Where no declared type borrows a reserved word, only elements are accounted for. -/
theorem AccountsFor.isElementName {name : String} (accounts : manifest.AccountsFor name)
    (apart : ∀ type ∈ manifest.declaredTypes, ¬ BorrowsReserved (elementType type)) :
    IsElementName name := by
  rcases accounts with own | ⟨type, declared, rfl, borrows⟩
  · exact own
  · exact absurd borrows (apart type declared)

theorem fromType_mem_declaredTypes {name : String} {decl : ConverterDeclaration}
    (declared : (name, decl) ∈ manifest.converters) : decl.fromType ∈ manifest.declaredTypes :=
  List.mem_append_left _ (List.mem_flatMap.mpr ⟨(name, decl), declared, List.mem_cons_self⟩)

theorem toType_mem_declaredTypes {name : String} {decl : ConverterDeclaration}
    (declared : (name, decl) ∈ manifest.converters) : decl.toType ∈ manifest.declaredTypes :=
  List.mem_append_left _ (List.mem_flatMap.mpr
    ⟨(name, decl), declared, List.mem_cons_of_mem _ List.mem_cons_self⟩)

theorem type_mem_declaredTypes {decl : ClassDeclaration} (declared : decl ∈ manifest.classes)
    {field : FieldDeclaration} (member : field ∈ decl.fields) : field.type ∈ manifest.declaredTypes :=
  List.mem_append_right _ (List.mem_flatMap.mpr ⟨decl, declared, List.mem_map_of_mem member⟩)

theorem accountsFor_of_isClassName {name : String} (named : IsClassName name) :
    manifest.AccountsFor name :=
  .inl (.inr named)

/-- A class name is its own element and its own box. -/
theorem accountsFor_elementType {name : String} (named : IsClassName name) :
    manifest.AccountsFor (elementType name) := by
  rw [Locator.elementType_of_isQualifiedName (Java.isClassName_iff.mp named).1]
  exact accountsFor_of_isClassName named

namespace WellFormed

variable (valid : manifest.WellFormed)

include valid

theorem isTypeName_of_mem {type : String} (declared : type ∈ manifest.declaredTypes) :
    Java.IsTypeName type := by
  rcases List.mem_append.mp declared with inConverters | inClasses
  · obtain ⟨entry, member, among⟩ := List.mem_flatMap.mp inConverters
    have converter := valid.converters entry member
    rw [List.mem_cons, List.mem_singleton] at among
    rcases among with rfl | rfl
    · exact converter.fromType
    · exact converter.toType
  · obtain ⟨decl, member, inFields⟩ := List.mem_flatMap.mp inClasses
    obtain ⟨field, inDecl, rfl⟩ := List.mem_map.mp inFields
    exact ((valid.classes decl member).fields field inDecl).type

theorem accountsFor_declared {type : String} (declared : type ∈ manifest.declaredTypes) :
    manifest.AccountsFor (elementType type) := by
  have qualified := Locator.isType_iff_element.mp
    (Locator.isType_iff.mpr (valid.isTypeName_of_mem declared))
  exact (Java.isQualifiedName_iff_element.mp qualified).imp_right fun borrows =>
    ⟨type, declared, rfl, borrows⟩

/-- The box of a primitive is a class, and any other type is its own. -/
theorem accountsFor_boxed {type : String} (declared : type ∈ manifest.declaredTypes) :
    manifest.AccountsFor (elementType (Java.boxed type)) := by
  have boxes : ∀ entry ∈ Java.primitives, Java.isQualifiedName entry.2 = true ∧
      ∀ part ∈ Text.segments '.' entry.2, Java.isReserved part = false := by decide
  rcases Java.boxed_eq_or_mem type with own | box
  · rw [own]
    exact valid.accountsFor_declared declared
  · exact accountsFor_elementType (Java.isClassName_iff.mpr (boxes (type, Java.boxed type) box))

end WellFormed

end Manifest

end EntityMapper
