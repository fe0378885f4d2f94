import EntityMapper.Proofs.Java.Name
import EntityMapper.Proofs.Naming.Constants

/-!
# Constants that are identifiers

Strategies and the constant form put `_` between words and map letters, so whether a constant is an
identifier is decided by the fragments it was written from: joined by `_` and mapped to the letter
case of the strategy and then to upper case, they have to be one (`isIdentifier_constantName_snake`).
For ASCII fragments the mapping makes no difference (`isIdentifier_upper_text`).
-/
namespace EntityMapper

namespace LetterCase

/-- Text in the letter case, character by character. -/
def text (case : LetterCase) (s : String) : String :=
  String.ofList (s.toList.flatMap case.apply)

theorem apply_ne_nil (case : LetterCase) (c : Char) : case.apply c ≠ [] := by
  cases case with
  | lower =>
    rw [apply, Text.lowerCase]
    split
    · simp
    · exact Text.mapCase_ne_nil Text.lowerShifts (by decide) c
  | upper =>
    rw [apply, Text.upperCase]
    split
    · simp
    · exact Text.mapCase_ne_nil Text.upperShifts (by decide) c

theorem apply_mark (case : LetterCase) : case.apply '_' = ['_'] := by
  cases case <;> decide

/-- The fragments that leave a trace, joined as they are. -/
def joined (fragments : List (List Char)) : List Char :=
  List.intercalate ['_'] (fragments.filter (· ≠ []))

/-- Beside `_`, joining writes the letters of the fragments. -/
theorem filter_join (case : LetterCase) (fragments : List (List Char)) :
    (case.join fragments).filter (· ≠ '_') =
      ((joined fragments).flatMap case.apply).filter (· ≠ '_') := by
  rw [join, joined]
  induction fragments.filter (· ≠ []) with
  | nil => rfl
  | cons fragment rest ih =>
    cases rest with
    | nil => simpa [List.intercalate] using filter_words case [] fragment
    | cons next rest =>
      rw [List.map_cons, List.map_cons, List.intercalate_cons_cons, List.intercalate_cons_cons,
        ← List.map_cons, List.flatMap_append, List.flatMap_append, List.filter_append,
        List.filter_append, List.filter_append, List.filter_append, ih, filter_words]
      simp [apply_mark]

theorem exists_intercalate_cons {α : Type} (separator part : List α) (rest : List (List α)) :
    ∃ tail, List.intercalate separator (part :: rest) = part ++ tail := by
  cases rest with
  | nil => exact ⟨[], by simp [List.intercalate]⟩
  | cons next rest =>
    exact ⟨separator ++ List.intercalate separator (next :: rest), by
      rw [List.intercalate_cons_cons, List.append_assoc]⟩

/-- Joining begins with the first letter of the fragments, whatever is mapped afterwards. -/
theorem head?_join (case : LetterCase) (fragments : List (List Char)) {f : Char → List Char}
    (kept : ∀ c, f c ≠ []) :
    ((case.join fragments).flatMap f).head? =
      (((joined fragments).flatMap case.apply).flatMap f).head? := by
  rw [join, joined]
  cases filtered : fragments.filter (· ≠ []) with
  | nil => rfl
  | cons fragment rest =>
    have filled : fragment ≠ [] := by
      have member : fragment ∈ fragments.filter (· ≠ []) := filtered ▸ List.mem_cons_self
      simpa using (List.mem_filter.mp member).2
    obtain ⟨c, after, rfl⟩ := List.exists_cons_of_ne_nil filled
    obtain ⟨others, written⟩ :=
      exists_intercalate_cons ['_'] (case.words [] (c :: after)) (rest.map (case.words []))
    obtain ⟨tail, whole⟩ := exists_intercalate_cons ['_'] (c :: after) rest
    have first : (case.apply c).flatMap f ≠ [] := by
      simp [List.flatMap_eq_nil_iff, apply_ne_nil, kept, List.exists_mem_of_ne_nil]
    rw [List.map_cons, written, whole, words, startsWord, Bool.and_false]
    simp only [Bool.false_eq_true, if_false, List.nil_append, List.append_assoc,
      List.cons_append, List.flatMap_cons, List.flatMap_append]
    rw [List.head?_append_of_ne_nil _ first, List.head?_append_of_ne_nil _ first]

end LetterCase

/-- What holds of `_` holds of all characters if it holds of the others. -/
theorem forall_mem_iff_filter {p : Char → Prop} (mark : p '_') {chars : List Char} :
    (∀ c ∈ chars, p c) ↔ ∀ c ∈ chars.filter (· ≠ '_'), p c := by
  constructor
  · exact fun all c member => all c (List.mem_of_mem_filter member)
  · intro others c member
    by_cases same : c = '_'
    · exact same ▸ mark
    · exact others c (List.mem_filter.mpr ⟨member, by simpa using same⟩)

/-- Text that two mappings have written is an identifier where the fragments are, joined as they are
and mapped. -/
theorem isIdentifier_join (case : LetterCase) (fragments : List (List Char)) {f : Char → List Char}
    (kept : ∀ c, f c ≠ []) (mark : f '_' = ['_']) :
    Java.isIdentifier (String.ofList ((case.join fragments).flatMap f)) =
      Java.isIdentifier
        (String.ofList (((LetterCase.joined fragments).flatMap case.apply).flatMap f)) := by
  have continued : ∀ d ∈ f '_', Java.continuesIdentifier d = true := by
    rw [mark, List.forall_mem_singleton]
    decide
  have marked (chars : List Char) :
      (∀ d ∈ chars.flatMap f, Java.continuesIdentifier d = true) ↔
        ∀ c ∈ chars.filter (· ≠ '_'), ∀ d ∈ f c, Java.continuesIdentifier d = true := by
    rw [← forall_mem_iff_filter (p := fun c => ∀ d ∈ f c, Java.continuesIdentifier d = true)
      continued]
    simp only [List.mem_flatMap, forall_exists_index, and_imp]
    exact ⟨fun all c member d mapped => all d c member mapped,
      fun all d c member mapped => all c member d mapped⟩
  rw [Bool.eq_iff_iff, Java.isIdentifier_iff, Java.isIdentifier_iff, String.toList_ofList,
    String.toList_ofList, case.head?_join fragments kept, marked, marked, case.filter_join]

theorem toList_joinWith_mark (parts : List String) :
    (Text.joinWith "_" parts).toList = List.intercalate ['_'] (parts.map String.toList) := by
  induction parts with
  | nil => rfl
  | cons part rest ih =>
    cases rest with
    | nil => simp [Text.joinWith, List.intercalate]
    | cons next rest =>
      rw [Text.joinWith, String.toList_append, String.toList_append, ih]
      · simp [List.intercalate_cons_cons]
      · simp

/-- The characters of the fragments that are not empty, joined. -/
theorem joined_eq (fragments : List String) :
    LetterCase.joined (fragments.map String.toList) =
      (Text.joinWith "_" (fragments.filter (· ≠ ""))).toList := by
  rw [LetterCase.joined, toList_joinWith_mark, List.filter_map]
  congr 2
  refine List.filter_congr fun fragment _ => ?_
  simp

/-- The constant of a name is an identifier where its upper case is. -/
theorem isIdentifier_constantName (name : String) :
    Java.isIdentifier (constantName name) = Java.isIdentifier (Text.upper name) := by
  have whole : LetterCase.joined [name.toList] = name.toList := by
    cases name.toList with
    | nil => rfl
    | cons first rest => simp [LetterCase.joined, List.intercalate]
  have written := isIdentifier_join .upper [name.toList] (f := fun c => [c]) (by simp) rfl
  rw [List.flatMap_singleton', List.flatMap_singleton', whole] at written
  exact written

/-- The constant of a name that a built-in strategy has written is an identifier where the fragments
are, joined by `_` and mapped to the case of the strategy and then to upper case. -/
theorem isIdentifier_constantName_snake (case : LetterCase) (fragments : List String) :
    Java.isIdentifier (constantName (case.snake.resolve fragments)) =
      Java.isIdentifier
        (Text.upper (case.text (Text.joinWith "_" (fragments.filter (· ≠ ""))))) := by
  have written := isIdentifier_join case (fragments.map String.toList)
    (LetterCase.apply_ne_nil .upper) (LetterCase.apply_mark .upper)
  rw [isIdentifier_constantName, Text.upper, Text.upper, LetterCase.text, String.toList_ofList,
    ← joined_eq]
  simpa [LetterCase.snake, LetterCase.apply] using written

/-- ASCII text is mapped to its upper case, from whichever case. -/
theorem upper_text_eq_asciiUpper (case : LetterCase) {s : String} (ascii : Text.IsAscii s) :
    Text.upper (case.text s) = Text.asciiUpper s := by
  rw [Text.upper, LetterCase.text, Text.asciiUpper, String.toList_ofList, List.flatMap_assoc,
    List.map_eq_flatMap]
  congr 1
  refine List.flatMap_congr fun c member => ?_
  exact Text.forall_ascii (p := fun c => (case.apply c).flatMap Text.upperCase = [c.toUpper])
    (by cases case <;> decide) c (ascii c member)

/-- Of ASCII text, case makes no difference to whether it is an identifier. -/
theorem isIdentifier_upper_text (case : LetterCase) {s : String} (ascii : Text.IsAscii s) :
    Java.isIdentifier (Text.upper (case.text s)) = Java.isIdentifier s := by
  rw [upper_text_eq_asciiUpper case ascii, Java.isIdentifier_asciiUpper ascii]

end EntityMapper
