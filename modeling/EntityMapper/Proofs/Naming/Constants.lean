import EntityMapper.Naming.Strategy
import EntityMapper.Proofs.Text.LetterCase
import EntityMapper.Proofs.Text.Segments

/-!
# Names in constant form

The constant form of a name may split it into words once more. But a name that the built-in
strategies have written is of one case as far as it is ASCII, and a name of one case begins no new
words: its constant form is its upper case (`constantName_eq_upper`). So ASCII names of one case
keep apart there, and one of each case fall together exactly when one is the upper case of the other
(`constantName_injective`).
-/
namespace EntityMapper

namespace LetterCase

/-- The name has no letters of the other case. -/
def Writes : LetterCase → String → Prop
  | .lower, name => Text.NoCapitals name
  | .upper, name => Text.NoSmall name

theorem words_of_noCapitals {case : LetterCase} {before chars : List Char}
    (small : ∀ c ∈ chars, Text.isUppercase c = false) :
    case.words before chars = chars.flatMap case.apply := by
  induction chars generalizing before with
  | nil => rfl
  | cons c after ih =>
    obtain ⟨first, others⟩ := List.forall_mem_cons.mp small
    rw [words, ih others, first, List.flatMap_cons]
    rfl

/-- A word starts only next to a small letter. -/
theorem startsWord_of_noSmall {before after : List Char}
    (capital : ∀ c ∈ before ++ after, Text.isLowercase c = false) :
    startsWord before after = false := by
  cases before with
  | nil => rfl
  | cons previous before =>
    obtain ⟨first, others⟩ := List.forall_mem_cons.mp capital
    have letter : (before.find? (!·.isDigit)).any Text.isLowercase = false := by
      cases found : before.find? (!·.isDigit) with
      | none => rfl
      | some c => exact others c (List.mem_append_left _ (List.mem_of_find?_eq_some found))
    have next : after.head?.any Text.isLowercase = false := by
      cases after with
      | nil => rfl
      | cons c after => exact others c (List.mem_append_right _ List.mem_cons_self)
    simp [startsWord, first, letter, next]

theorem words_of_noSmall {case : LetterCase} {before chars : List Char}
    (capital : ∀ c ∈ before ++ chars, Text.isLowercase c = false) :
    case.words before chars = chars.flatMap case.apply := by
  induction chars generalizing before with
  | nil => rfl
  | cons c after ih =>
    have passed : ∀ d ∈ (c :: before) ++ after, Text.isLowercase d = false := fun d member =>
      capital d (by simpa [or_left_comm] using member)
    have around : ∀ d ∈ before ++ after, Text.isLowercase d = false := fun d member =>
      passed d (List.mem_cons_of_mem _ member)
    rw [words, ih passed, startsWord_of_noSmall around, Bool.and_false, List.flatMap_cons]
    rfl

theorem join_single (case : LetterCase) (chars : List Char) :
    case.join [chars] = case.words [] chars := by
  cases chars with
  | nil => rfl
  | cons c chars => simp [join, List.intercalate]

theorem resolveOne_eq (case : LetterCase) (name : String) :
    case.snake.resolveOne name = String.ofList (case.words [] name.toList) := by
  rw [← join_single]
  rfl

/-- Words add `_` to the letters of a name in the case asked for. -/
theorem filter_words (case : LetterCase) (before chars : List Char) :
    (case.words before chars).filter (· ≠ '_') = (chars.flatMap case.apply).filter (· ≠ '_') := by
  induction chars generalizing before with
  | nil => rfl
  | cons c after ih =>
    rw [words, List.filter_append, List.filter_append, ih, List.flatMap_cons, List.filter_append]
    split <;> simp

theorem mem_words {case : LetterCase} {before chars : List Char} {d : Char}
    (member : d ∈ case.words before chars) : d = '_' ∨ ∃ c ∈ chars, d ∈ case.apply c := by
  induction chars generalizing before with
  | nil => cases member
  | cons c after ih =>
    rw [words, List.mem_append, List.mem_append] at member
    rcases member with (mark | letter) | rest
    · split at mark
      · exact .inl (List.mem_singleton.mp mark)
      · cases mark
    · exact .inr ⟨c, List.mem_cons_self, letter⟩
    · exact (ih rest).imp_right fun ⟨other, later, mapped⟩ =>
        ⟨other, List.mem_cons_of_mem _ later, mapped⟩

theorem mem_join {case : LetterCase} {fragments : List (List Char)} {d : Char}
    (member : d ∈ case.join fragments) :
    d = '_' ∨ ∃ fragment ∈ fragments, ∃ c ∈ fragment, d ∈ case.apply c := by
  rcases Text.mem_intercalate member with mark | ⟨part, inParts, inPart⟩
  · exact .inl (List.mem_singleton.mp mark)
  · obtain ⟨fragment, kept, rfl⟩ := List.mem_map.mp inParts
    exact (mem_words inPart).imp_right fun letter => ⟨fragment, List.mem_of_mem_filter kept, letter⟩

/-- A name of one case begins no new words, whatever case it is written in next. -/
theorem words_of_writes {case written : LetterCase} {name : String} (ofCase : written.Writes name) :
    case.words [] name.toList = name.toList.flatMap case.apply := by
  cases written with
  | lower => exact words_of_noCapitals ofCase
  | upper =>
    have capital : ∀ c ∈ [] ++ name.toList, Text.isLowercase c = false := ofCase
    exact words_of_noSmall capital

/-- What a built-in strategy writes in ASCII is of its case. -/
theorem writes_snake (case : LetterCase) (fragments : List String)
    (ascii : Text.IsAscii (case.snake.resolve fragments)) :
    case.Writes (case.snake.resolve fragments) := by
  have written : ∀ d ∈ (case.snake.resolve fragments).toList,
      d = '_' ∨ ∃ c, d ∈ case.apply c := by
    intro d member
    rw [snake, String.toList_ofList] at member
    exact (mem_join member).imp_right fun ⟨_, _, c, _, mapped⟩ => ⟨c, mapped⟩
  cases case with
  | lower =>
    intro d member
    rcases written d member with rfl | ⟨c, mapped⟩
    · decide
    · exact Text.isUppercase_of_mem_lowerCase mapped (ascii d member)
  | upper =>
    intro d member
    rcases written d member with rfl | ⟨c, mapped⟩
    · decide
    · exact Text.isLowercase_of_mem_upperCase mapped (ascii d member)

end LetterCase

theorem constantName_eq (name : String) :
    constantName name = String.ofList (LetterCase.upper.words [] name.toList) :=
  LetterCase.upper.resolveOne_eq name

theorem isLowercase_of_mem_constantName {name : String} {d : Char}
    (member : d ∈ (constantName name).toList) (ascii : d.toNat < Text.asciiLimit) :
    Text.isLowercase d = false := by
  rw [constantName_eq, String.toList_ofList] at member
  rcases LetterCase.mem_words member with rfl | ⟨c, _, mapped⟩
  · decide
  · exact Text.isLowercase_of_mem_upperCase mapped ascii

/-- No constant form is a name with small ASCII letters. -/
theorem constantName_ne {other : String} (ascii : Text.IsAscii other) (small : ¬ Text.NoSmall other)
    (name : String) : constantName name ≠ other := by
  rintro rfl
  exact small (LetterCase.writes_snake .upper [name] ascii)

/-- The constant form of a name of one case is its upper case. -/
theorem constantName_eq_upper {case : LetterCase} {name : String} (written : case.Writes name) :
    constantName name = Text.upper name := by
  have unsplit : LetterCase.upper.words [] name.toList = name.toList.flatMap Text.upperCase :=
    LetterCase.words_of_writes written
  rw [constantName_eq, unsplit, Text.upper]

/-- Whatever the name, its constant form is its upper case with some `_` added. -/
theorem filter_constantName (name : String) :
    (constantName name).toList.filter (· ≠ '_') = (Text.upper name).toList.filter (· ≠ '_') := by
  rw [constantName_eq, Text.upper, String.toList_ofList, String.toList_ofList]
  exact LetterCase.filter_words .upper [] name.toList

/-- ASCII names of one case differ in constant form. -/
theorem constantName_injective {case : LetterCase} {first second : String}
    (writtenFirst : case.Writes first) (writtenSecond : case.Writes second)
    (asciiFirst : Text.IsAscii first) (asciiSecond : Text.IsAscii second)
    (same : constantName first = constantName second) : first = second := by
  rw [constantName_eq_upper writtenFirst, constantName_eq_upper writtenSecond,
    Text.upper_eq_asciiUpper asciiFirst, Text.upper_eq_asciiUpper asciiSecond] at same
  cases case with
  | lower =>
    rw [← Text.asciiLower_asciiUpper asciiFirst writtenFirst, same,
      Text.asciiLower_asciiUpper asciiSecond writtenSecond]
  | upper =>
    rwa [Text.asciiUpper_eq_self asciiFirst writtenFirst,
      Text.asciiUpper_eq_self asciiSecond writtenSecond] at same

end EntityMapper
