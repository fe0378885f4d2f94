import EntityMapper.Mapper.Context
import EntityMapper.Proofs.Naming.Identifiers

/-!
# Either built-in strategy first

Names that a built-in strategy has written in ASCII may be written once more in either case: the
result is the one that the fragments would have had at once (`snake_confluent`). The first pass puts
`_` where the case of the fragments asks for it and leaves letters of one case, so the second finds
no further words, and only maps letters. Therefore constants do not tell in which case the names they
are made of were written.
-/
namespace EntityMapper

namespace LetterCase

/-- A letter that has been written in one case is written in another as it would have been at
once. -/
theorem flatMap_words {written read : LetterCase} {before chars : List Char}
    (mapped : ∀ c ∈ chars, (written.apply c).flatMap read.apply = read.apply c) :
    (written.words before chars).flatMap read.apply = read.words before chars := by
  induction chars generalizing before with
  | nil => rfl
  | cons c after ih =>
    obtain ⟨first, others⟩ := List.forall_mem_cons.mp mapped
    rw [words, words, List.flatMap_append, List.flatMap_append, first, ih others]
    split <;> simp [apply_mark]

theorem flatMap_intercalate_words {written read : LetterCase} {parts : List (List Char)}
    (mapped : ∀ part ∈ parts, ∀ c ∈ part, (written.apply c).flatMap read.apply = read.apply c) :
    (List.intercalate ['_'] (parts.map (written.words []))).flatMap read.apply =
      List.intercalate ['_'] (parts.map (read.words [])) := by
  induction parts with
  | nil => rfl
  | cons part rest ih =>
    obtain ⟨first, others⟩ := List.forall_mem_cons.mp mapped
    cases rest with
    | nil => simpa [List.intercalate] using flatMap_words first
    | cons next rest =>
      rw [List.map_cons, List.map_cons, List.intercalate_cons_cons, ← List.map_cons,
        List.flatMap_append, List.flatMap_append, flatMap_words first, ih others]
      simp [List.intercalate_cons_cons, apply_mark]

theorem flatMap_join {written read : LetterCase} {fragments : List (List Char)}
    (mapped : ∀ fragment ∈ fragments, ∀ c ∈ fragment,
      (written.apply c).flatMap read.apply = read.apply c) :
    (written.join fragments).flatMap read.apply = read.join fragments :=
  flatMap_intercalate_words fun fragment member => mapped fragment (List.mem_of_mem_filter member)

theorem apply_apply_ascii (written read : LetterCase) {c : Char}
    (ascii : c.toNat < Text.asciiLimit) :
    (written.apply c).flatMap read.apply = read.apply c :=
  Text.forall_ascii (p := fun c => (written.apply c).flatMap read.apply = read.apply c)
    (by cases written <;> cases read <;> decide) c ascii

/-- What is written of ASCII is ASCII. -/
theorem isAscii_snake (case : LetterCase) {fragments : List String}
    (ascii : ∀ fragment ∈ fragments, Text.IsAscii fragment) :
    Text.IsAscii (case.snake.resolve fragments) := by
  intro d member
  rw [snake, String.toList_ofList] at member
  rcases mem_join member with rfl | ⟨chars, listed, c, inChars, mapped⟩
  · decide
  · obtain ⟨fragment, inFragments, rfl⟩ := List.mem_map.mp listed
    have written : (case.apply c).all (·.toNat < Text.asciiLimit) = true :=
      Text.forall_ascii (p := fun c => (case.apply c).all (·.toNat < Text.asciiLimit) = true)
        (by cases case <;> decide) c (ascii fragment inFragments c inChars)
    exact of_decide_eq_true (List.all_eq_true.mp written d mapped)

/-- Writing ASCII in one case and then in another is writing it in the other. -/
theorem resolveOne_snake (written read : LetterCase) {fragments : List String}
    (ascii : ∀ fragment ∈ fragments, Text.IsAscii fragment) :
    read.snake.resolveOne (written.snake.resolve fragments) = read.snake.resolve fragments := by
  have mapped : ∀ fragment ∈ fragments.map String.toList, ∀ c ∈ fragment,
      (written.apply c).flatMap read.apply = read.apply c := by
    intro chars listed c member
    obtain ⟨fragment, inFragments, rfl⟩ := List.mem_map.mp listed
    exact apply_apply_ascii written read (ascii fragment inFragments c member)
  calc read.snake.resolveOne (written.snake.resolve fragments)
      = String.ofList (read.words [] (written.snake.resolve fragments).toList) :=
        resolveOne_eq read _
    _ = String.ofList ((written.snake.resolve fragments).toList.flatMap read.apply) := by
        rw [words_of_writes (writes_snake written fragments (isAscii_snake written ascii))]
    _ = String.ofList ((written.join (fragments.map String.toList)).flatMap read.apply) := by
        rw [snake, String.toList_ofList]
    _ = read.snake.resolve fragments := by rw [flatMap_join mapped, snake]

end LetterCase

/-- The names of the converter's classes are ASCII. -/
def Converter.IsAscii (converter : Converter) : Prop :=
  Text.IsAscii converter.converterType ∧ Text.IsAscii converter.toType

theorem Text.isAscii_of_mem_segments {s part : String} (ascii : IsAscii s)
    (cut : part ∈ segments '.' s) : IsAscii part :=
  fun c member => ascii c (mem_of_mem_segment cut member)

theorem ConverterNaming.isAscii_fragments (naming : ConverterNaming) {converter : Converter}
    (ascii : converter.IsAscii) :
    ∀ fragment ∈ naming.fragments converter, Text.IsAscii fragment := by
  obtain ⟨ofType, ofTarget⟩ := ascii
  intro fragment member
  cases naming with
  | simple =>
    simp only [fragments, List.mem_cons, List.not_mem_nil, or_false] at member
    rcases member with rfl | rfl
    · exact Java.isAscii_simpleName ofTarget
    · exact Java.isAscii_simpleName ofType
  | qualifiedTarget =>
    rcases List.mem_append.mp member with inTarget | simple
    · exact Text.isAscii_of_mem_segments ofTarget inTarget
    · rw [List.mem_singleton.mp simple]
      exact Java.isAscii_simpleName ofType
  | qualified =>
    rcases List.mem_append.mp member with inTarget | inType
    · exact Text.isAscii_of_mem_segments ofTarget inTarget
    · exact Text.isAscii_of_mem_segments ofType inType

namespace MapperContext

/-- A converter's name as a constant does not tell the case its fragments were joined in. -/
theorem converterName_snake (library : QueryLibrary) (first second : LetterCase)
    (naming : ConverterNaming) {converter : Converter} (ascii : converter.IsAscii) :
    converterName ⟨library, first.snake⟩ naming converter =
      converterName ⟨library, second.snake⟩ naming converter := by
  have written := naming.isAscii_fragments ascii
  rw [converterName, converterName, constantName, constantName,
    LetterCase.resolveOne_snake first .upper written,
    LetterCase.resolveOne_snake second .upper written]

theorem converterConstant_snake (library : QueryLibrary) (first second : LetterCase)
    {table : Table} {converter : Converter} (ascii : converter.IsAscii)
    (others : ∀ other ∈ table.converters, other.IsAscii) :
    converterConstant ⟨library, first.snake⟩ table converter =
      converterConstant ⟨library, second.snake⟩ table converter := by
  have names (naming : ConverterNaming) := converterName_snake library first second naming ascii
  have clashing (naming : ConverterNaming) :
      clashes ⟨library, first.snake⟩ table.converters naming converter =
        clashes ⟨library, second.snake⟩ table.converters naming converter := by
    rw [clashes, clashes, names naming, Bool.eq_iff_iff, List.any_eq_true, List.any_eq_true]
    refine exists_congr fun other => and_congr_right fun member => ?_
    rw [converterName_snake library first second naming (others other member)]
  simp only [converterConstant, clashing, names]

end MapperContext

/-- A name that a built-in strategy has written of ASCII fragments is written in any case as the
fragments are. So constants of tables, columns and converters are the same, whichever built-in
strategy has written the names they are made of. -/
theorem snake_confluent (written read : LetterCase) (fragments : List String)
    (ascii : ∀ fragment ∈ fragments, Text.IsAscii fragment) :
    read.snake.resolveOne (written.snake.resolve fragments) = read.snake.resolve fragments ∧
    (∀ table other : Table, table.name = written.snake.resolve fragments →
      other.name = read.snake.resolve fragments → table.constant = other.constant) ∧
    (∀ column other : Column, column.name = written.snake.resolve fragments →
      other.name = read.snake.resolve fragments → column.constant = other.constant) ∧
    ∀ (library : QueryLibrary) (table : Table) (converter : Converter), converter.IsAscii →
      (∀ other ∈ table.converters, other.IsAscii) →
        MapperContext.converterConstant ⟨library, written.snake⟩ table converter =
          MapperContext.converterConstant ⟨library, read.snake⟩ table converter := by
  have same : constantName (written.snake.resolve fragments) =
      constantName (read.snake.resolve fragments) := by
    rw [constantName, constantName, LetterCase.resolveOne_snake written .upper ascii,
      LetterCase.resolveOne_snake read .upper ascii]
  refine ⟨LetterCase.resolveOne_snake written read ascii, ?_, ?_, ?_⟩
  · intro table other named otherwise
    rw [Table.constant, Table.constant, named, otherwise, same]
  · intro column other named otherwise
    rw [Column.constant, Column.constant, named, otherwise, same]
  · intro library table converter ofConverter others
    exact MapperContext.converterConstant_snake library written read ofConverter others

/-- Fragments with an acronym and digits, in lower case and then as a constant. -/
theorem homeAddress_confluent :
    (∀ fragment ∈ ["homeAddress", "XMLLine2Id"], Text.IsAscii fragment) ∧
      LetterCase.lower.snake.resolve ["homeAddress", "XMLLine2Id"] =
        "home_address_xml_line2_id" ∧
      LetterCase.upper.snake.resolveOne
          (LetterCase.lower.snake.resolve ["homeAddress", "XMLLine2Id"]) =
        LetterCase.upper.snake.resolve ["homeAddress", "XMLLine2Id"] := by
  have ascii : ∀ fragment ∈ ["homeAddress", "XMLLine2Id"], Text.IsAscii fragment := by
    decide
  exact ⟨ascii, by decide, (snake_confluent .lower .upper _ ascii).1⟩

end EntityMapper
