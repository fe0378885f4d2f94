import EntityMapper.Java.Name
import EntityMapper.Proofs.Text.LetterCase
import EntityMapper.Proofs.Text.Segments

/-!
# Identifiers and qualified names

An identifier has characters that may continue one, and a first character that may start one
(`isIdentifier_iff`). Of a qualified name, the package has all segments but the last, and the simple
name is the last (`segments_qualifiedName`), an identifier again.
-/
namespace EntityMapper.Java

theorem continuesIdentifier_of_starts {c : Char} (starts : startsIdentifier c = true) :
    continuesIdentifier c = true := by
  rw [startsIdentifier, Bool.or_eq_true, Bool.or_eq_true] at starts
  rw [continuesIdentifier, Text.isAlphanumeric]
  rcases starts with (letter | mark) | dollar
  · simp [letter]
  · simp [mark]
  · simp [dollar]

theorem isIdentifier_iff {name : String} :
    isIdentifier name = true ↔
      name.toList.head?.any startsIdentifier = true ∧
        ∀ c ∈ name.toList, continuesIdentifier c = true := by
  rw [isIdentifier]
  cases name.toList with
  | nil => simp
  | cons first rest =>
    simp only [Bool.and_eq_true, List.all_eq_true, List.head?_cons, Option.any_some,
      List.forall_mem_cons]
    exact ⟨fun ⟨starts, others⟩ => ⟨starts, continuesIdentifier_of_starts starts, others⟩,
      fun ⟨starts, _, others⟩ => ⟨starts, others⟩⟩

theorem ne_empty_of_isIdentifier {name : String} (identifier : isIdentifier name = true) :
    name ≠ "" := by
  rintro rfl
  cases identifier

/-- An identifier has no points, slashes or angle brackets. -/
theorem not_mem_of_isIdentifier {name : String} (identifier : isIdentifier name = true) {c : Char}
    (foreign : continuesIdentifier c = false) : c ∉ name.toList := by
  intro member
  rw [(isIdentifier_iff.mp identifier).2 c member] at foreign
  cases foreign

/-- Upper case changes nothing about whether ASCII text is an identifier. -/
theorem isIdentifier_asciiUpper {name : String} (ascii : Text.IsAscii name) :
    isIdentifier (Text.asciiUpper name) = isIdentifier name := by
  have kept (c : Char) (member : c ∈ name.toList) :
      startsIdentifier c.toUpper = startsIdentifier c ∧
        continuesIdentifier c.toUpper = continuesIdentifier c :=
    Text.forall_ascii (p := fun c => startsIdentifier c.toUpper = startsIdentifier c ∧
      continuesIdentifier c.toUpper = continuesIdentifier c) (by decide) c (ascii c member)
  rw [Bool.eq_iff_iff, isIdentifier_iff, isIdentifier_iff, Text.asciiUpper, String.toList_ofList,
    List.forall_mem_map]
  refine and_congr ?_ (forall₂_congr fun c member => by rw [(kept c member).2])
  cases spelled : name.toList with
  | nil => rfl
  | cons first rest => simp [(kept first (by simp [spelled])).1]

/-- The box of a primitive type stands beside it in the list, and any other type is its own. -/
theorem boxed_eq_or_mem (name : String) : boxed name = name ∨ (name, boxed name) ∈ primitives := by
  rw [boxed]
  cases found : primitives.lookup name with
  | none => exact .inl rfl
  | some box =>
    obtain ⟨before, after, split, _⟩ := List.lookup_eq_some_iff.mp found
    exact .inr (by simp [split])

theorem isIdentifier_of_mem_segments {name part : String} (qualified : isQualifiedName name = true)
    (member : part ∈ Text.segments '.' name) : isIdentifier part = true :=
  List.all_eq_true.mp qualified part member

theorem not_mem_of_isQualifiedName {name : String} (qualified : isQualifiedName name = true)
    {c : Char} (other : c ≠ '.') (foreign : continuesIdentifier c = false) : c ∉ name.toList := by
  intro member
  rcases Text.mem_segment '.' member with point | ⟨part, inParts, inPart⟩
  · exact other point
  · exact not_mem_of_isIdentifier (isIdentifier_of_mem_segments qualified inParts) foreign inPart

/-- A qualified name with points is cut into the segments of its package and the simple name. -/
theorem segments_of_point_mem {name : String} (qualified : isQualifiedName name = true)
    (cut : '.' ∈ name.toList) :
    Text.segments '.' name = Text.segments '.' (packageName name) ++ [simpleName name] := by
  obtain ⟨joined, uncut⟩ := Text.append_afterLast cut
  have whole : simpleName name = String.ofList (Text.afterLast '.' name.toList) := by
    rw [simpleName, Text.beforeFirst_of_not_mem
      (not_mem_of_isQualifiedName qualified (by decide) (by decide))]
  have single : Text.segments '.' (simpleName name) = [simpleName name] :=
    Text.segments_of_not_mem (by simpa [whole] using uncut)
  rw [← single, whole, packageName, ← Text.segments_append_cons, joined, String.ofList_toList]

theorem packageName_of_not_mem {name : String} (uncut : '.' ∉ name.toList) : packageName name = "" := by
  rw [packageName, (Text.afterLast_of_not_mem uncut).2, String.ofList_nil]

/-- The package of a qualified name has its segments but the last one, the simple name. -/
theorem segments_qualifiedName {name : String} (qualified : isQualifiedName name = true) :
    Text.segments '.' name =
      (Text.segments '.' (packageName name)).filter (· ≠ "") ++ [simpleName name] := by
  by_cases cut : '.' ∈ name.toList
  · have parts := segments_of_point_mem qualified cut
    have named : ∀ part ∈ Text.segments '.' (packageName name), part ≠ "" := by
      intro part member
      apply ne_empty_of_isIdentifier
      exact isIdentifier_of_mem_segments qualified (parts ▸ List.mem_append_left _ member)
    rw [parts, List.filter_eq_self.mpr (by simpa using named)]
  · have whole : simpleName name = name := by
      rw [simpleName, Text.beforeFirst_of_not_mem
        (not_mem_of_isQualifiedName qualified (by decide) (by decide)),
        (Text.afterLast_of_not_mem cut).1, String.ofList_toList]
    rw [packageName_of_not_mem cut, whole, Text.segments_of_not_mem cut]
    simp [Text.segments]

theorem isIdentifier_simpleName {name : String} (qualified : isQualifiedName name = true) :
    isIdentifier (simpleName name) = true := by
  apply isIdentifier_of_mem_segments qualified
  rw [segments_qualifiedName qualified]
  simp

theorem isAscii_simpleName {name : String} (ascii : Text.IsAscii name) :
    Text.IsAscii (simpleName name) := by
  intro c member
  rw [simpleName, String.toList_ofList, Text.afterLast, List.mem_reverse] at member
  have inReverse := List.takeWhile_subset _ member
  exact ascii c (List.takeWhile_subset _ (List.mem_reverse.mp inReverse))

end EntityMapper.Java
