import EntityMapper.Proofs.Naming.Identifiers
import EntityMapper.Proofs.Text.CaseMapping

/-!
# Writing a name twice

A built-in strategy leaves a name that it has written as it is exactly where no word starts in what
it has written of a single fragment (`resolveOne_snake_iff`): the `_` between fragments hide each from
the others. So it is where every letter has a form in the case, and only then for all names that hold
a letter: an identifier with a letter that has none can begin a word in the second pass that it did
not begin in the first (`snake_idempotence`).
-/
namespace EntityMapper

namespace LetterCase

/-- Whether the character is a letter of the other case. -/
def isForeign : LetterCase → Char → Bool
  | .lower => Text.isUppercase
  | .upper => Text.isLowercase

/-- Whether the character has a form in the case: none of what it is mapped to is of the other
case. -/
def HasForm (case : LetterCase) (c : Char) : Prop :=
  ∀ d ∈ case.apply c, case.isForeign d = false

-- By the list: characters are also a finite type, whose instance would try each of them.
instance (case : LetterCase) (c : Char) : Decidable (case.HasForm c) :=
  List.decidableBAll (case.isForeign · = false) (case.apply c)

/-- No word starts in the characters, when those of `before` have been read, nearest first. -/
def Unbroken : (before chars : List Char) → Prop
  | _, [] => True
  | before, c :: after =>
    (Text.isUppercase c && startsWord before after) = false ∧ Unbroken (c :: before) after

theorem apply_of_mem {case : LetterCase} {c d : Char} (mapped : d ∈ case.apply c) :
    case.apply d = [d] := by
  cases case with
  | lower => exact Text.lowerCase_of_mem mapped
  | upper => exact Text.upperCase_of_mem mapped

/-- A letter without a form in the case is left as it is. -/
theorem apply_of_not_hasForm {case : LetterCase} {c : Char} (formless : ¬ case.HasForm c) :
    case.apply c = [c] ∧ case.isForeign c = true := by
  simp only [HasForm, not_forall, Bool.not_eq_false] at formless
  obtain ⟨d, mapped, foreign⟩ := formless
  have self : case.apply c = [c] := by
    cases case with
    | lower => exact Text.lowerCase_eq_self mapped foreign
    | upper => exact Text.upperCase_eq_self mapped foreign
  rw [self, List.mem_singleton] at mapped
  exact ⟨self, mapped ▸ foreign⟩

theorem length_le_words (case : LetterCase) (before chars : List Char) :
    chars.length ≤ (case.words before chars).length := by
  induction chars generalizing before with
  | nil => exact Nat.zero_le _
  | cons c after ih =>
    have filled : 0 < (case.apply c).length := List.length_pos_iff.mpr (case.apply_ne_nil c)
    have later := ih (c :: before)
    rw [words, List.length_append, List.length_append, List.length_cons]
    omega

/-- Where no letter changes, words leave the characters as they are exactly if none starts. -/
theorem words_eq_self_iff {case : LetterCase} {before chars : List Char}
    (fixed : ∀ c ∈ chars, case.apply c = [c]) :
    case.words before chars = chars ↔ Unbroken before chars := by
  induction chars generalizing before with
  | nil => exact iff_of_true rfl trivial
  | cons c after ih =>
    obtain ⟨first, others⟩ := List.forall_mem_cons.mp fixed
    rw [words, Unbroken, first]
    cases starts : Text.isUppercase c && startsWord before after with
    | false => simpa using ih others
    | true =>
      have longer := case.length_le_words (c :: before) after
      refine iff_of_false (fun same => ?_) (by simp)
      have counted := congrArg List.length same
      simp only [if_true, List.length_append, List.length_cons, List.length_nil] at counted
      omega

theorem isLowercase_mark : Text.isLowercase '_' = false := by decide

theorem startsWord_append_mark (before further after : List Char) :
    startsWord (before ++ '_' :: further) after = startsWord before after := by
  cases before with
  | nil => rfl
  | cons previous before =>
    have behind : ((before ++ '_' :: further).find? (!·.isDigit)).any Text.isLowercase =
        (before.find? (!·.isDigit)).any Text.isLowercase := by
      rw [List.find?_append]
      cases before.find? (!·.isDigit) with
      | none => simp [isLowercase_mark]
      | some c => rfl
    rw [List.cons_append, startsWord, startsWord, behind]

theorem startsWord_before_mark (before after further : List Char) :
    startsWord before (after ++ '_' :: further) = startsWord before after := by
  have ahead : (after ++ '_' :: further).head?.any Text.isLowercase =
      after.head?.any Text.isLowercase := by
    cases after with
    | nil => exact isLowercase_mark
    | cons c after => rfl
  cases before with
  | nil => rfl
  | cons previous before => rw [startsWord, startsWord, ahead]

/-- What stands before a mark does not matter behind it. -/
theorem unbroken_behind_mark (before further chars : List Char) :
    Unbroken (before ++ '_' :: further) chars ↔ Unbroken before chars := by
  induction chars generalizing before with
  | nil => exact Iff.rfl
  | cons c after ih =>
    rw [Unbroken, Unbroken, startsWord_append_mark, ← List.cons_append, ih]

/-- A mark parts characters: words start on either side as if the other were not there. -/
theorem unbroken_append_mark (before first second : List Char) :
    Unbroken before (first ++ '_' :: second) ↔ Unbroken before first ∧ Unbroken [] second := by
  induction first generalizing before with
  | nil =>
    have mark : Text.isUppercase '_' = false := by decide
    have hidden := unbroken_behind_mark [] before second
    rw [List.nil_append] at hidden ⊢
    simp only [Unbroken, hidden, mark, Bool.false_and, true_and]
  | cons c first ih =>
    rw [List.cons_append, Unbroken, Unbroken, startsWord_before_mark, ih, and_assoc]

theorem unbroken_intercalate (parts : List (List Char)) :
    Unbroken [] (List.intercalate ['_'] parts) ↔ ∀ part ∈ parts, Unbroken [] part := by
  induction parts with
  | nil => simp [Unbroken, List.intercalate]
  | cons part rest ih =>
    cases rest with
    | nil => simp [List.intercalate]
    | cons next rest =>
      rw [List.intercalate_cons_cons, List.append_assoc, List.singleton_append,
        unbroken_append_mark, ih]
      exact List.forall_mem_cons.symm

/-- No word starts in a joined name exactly if none starts in what is written of a fragment. -/
theorem unbroken_join (case : LetterCase) (fragments : List (List Char)) :
    Unbroken [] (case.join fragments) ↔
      ∀ fragment ∈ fragments, Unbroken [] (case.words [] fragment) := by
  rw [join, unbroken_intercalate]
  simp only [List.forall_mem_map, List.mem_filter, decide_eq_true_eq, and_imp]
  refine forall₂_congr fun fragment _ => ⟨fun kept => ?_, fun written _ => written⟩
  by_cases empty : fragment = []
  · rw [empty]
    trivial
  · exact kept empty

/-- Writing a name again changes nothing exactly if no word starts in what was written of a
fragment. -/
theorem resolveOne_snake_iff (case : LetterCase) (fragments : List String) :
    case.snake.resolveOne (case.snake.resolve fragments) = case.snake.resolve fragments ↔
      ∀ fragment ∈ fragments, Unbroken [] (case.words [] fragment.toList) := by
  have fixed : ∀ d ∈ case.join (fragments.map String.toList), case.apply d = [d] := by
    intro d member
    rcases mem_join member with rfl | ⟨_, _, c, _, mapped⟩
    · exact case.apply_mark
    · exact apply_of_mem mapped
  rw [resolveOne_eq, snake, String.toList_ofList, String.ofList_inj, words_eq_self_iff fixed,
    unbroken_join, List.forall_mem_map]

/-- No word starts among characters of one case. -/
theorem unbroken_of_native {case : LetterCase} {before chars : List Char}
    (native : ∀ c ∈ before ++ chars, case.isForeign c = false) : Unbroken before chars := by
  induction chars generalizing before with
  | nil => trivial
  | cons c after ih =>
    have passed : ∀ d ∈ (c :: before) ++ after, case.isForeign d = false := fun d member =>
      native d (by simpa [or_left_comm] using member)
    refine ⟨?_, ih passed⟩
    cases case with
    | lower =>
      have small : Text.isUppercase c = false := native c (by simp)
      rw [small, Bool.false_and]
    | upper =>
      have around : ∀ d ∈ before ++ after, Text.isLowercase d = false := fun d member =>
        passed d (List.mem_cons_of_mem _ member)
      rw [startsWord_of_noSmall around, Bool.and_false]

theorem unbroken_words {case : LetterCase} {chars : List Char}
    (formed : ∀ c ∈ chars, case.HasForm c) : Unbroken [] (case.words [] chars) := by
  have native : ∀ d ∈ [] ++ case.words [] chars, case.isForeign d = false := by
    intro d member
    rcases mem_words member with rfl | ⟨c, inChars, mapped⟩
    · cases case <;> decide
    · exact formed c inChars d mapped
  exact unbroken_of_native native

/-- ASCII characters have a form in either case. -/
theorem hasForm_of_ascii (case : LetterCase) {c : Char} (ascii : c.toNat < Text.asciiLimit) :
    case.HasForm c :=
  Text.forall_ascii (p := case.HasForm) (by cases case <;> decide) c ascii

theorem startsWord_of_isLowercase {previous : Char} (small : Text.isLowercase previous = true)
    (before after : List Char) : startsWord (previous :: before) after = true := by
  have unmarked : previous ≠ '_' := by
    rintro rfl
    rw [isLowercase_mark] at small
    cases small
  have letter : previous.isDigit = false := by
    by_contra digit
    have ascii : previous.toNat < Text.asciiLimit := by
      simp only [Bool.not_eq_false, Char.isDigit, Bool.and_eq_true, decide_eq_true_eq] at digit
      exact Nat.lt_of_le_of_lt (UInt32.le_iff_toNat_le.mp digit.2) (by decide)
    exact digit (Text.forall_ascii (p := fun c => Text.isLowercase c = true → c.isDigit = false)
      (by decide) previous ascii small)
  simp [startsWord, unmarked, letter, small]

/-- An identifier in which a letter without a form, or the letter behind it, begins a word only once
its neighbour has been written. -/
def unsettledName : LetterCase → Char → String
  | .lower, c => String.ofList ['A', c]
  | .upper, c => String.ofList ['_', c, 'a']

theorem not_unbroken_unsettledName {case : LetterCase} {c : Char} (formless : ¬ case.HasForm c) :
    ¬ Unbroken [] (case.words [] (case.unsettledName c).toList) := by
  obtain ⟨self, foreign⟩ := apply_of_not_hasForm formless
  have start (after : List Char) : startsWord [] after = false := rfl
  rw [unsettledName.eq_def]
  cases case with
  | lower =>
    have kept : startsWord ['A'] [] = false := by decide
    have first : lower.apply 'A' = ['a'] := by decide
    have written : lower.words [] ['A', c] = ['a', c] := by
      simp [words, start, kept, first, self]
    have capital : Text.isUppercase c = true := foreign
    have splits : startsWord ['a'] [] = true := by decide
    rw [String.toList_ofList, written]
    rintro ⟨_, unsplit, _⟩
    rw [capital, splits] at unsplit
    cases unsplit
  | upper =>
    have kept : startsWord ['_'] ['a'] = false := rfl
    have plain : Text.isUppercase 'a' = false := by decide
    have last : upper.apply 'a' = ['A'] := by decide
    have written : upper.words [] ['_', c, 'a'] = ['_', c, 'A'] := by
      simp [words, start, kept, plain, apply_mark, last, self]
    have capital : Text.isUppercase 'A' = true := by decide
    have splits : startsWord [c, '_'] [] = true := startsWord_of_isLowercase foreign ['_'] []
    rw [String.toList_ofList, written]
    rintro ⟨_, _, unsplit, _⟩
    rw [capital, splits] at unsplit
    cases unsplit

/-- Beside its own letter the name is ASCII. -/
theorem mem_unsettledName {case : LetterCase} {c d : Char}
    (member : d ∈ (case.unsettledName c).toList) : d = c ∨ d.toNat < Text.asciiLimit := by
  cases case <;> simp only [unsettledName, String.toList_ofList, List.mem_cons, List.not_mem_nil,
    or_false] at member
  · rcases member with rfl | same
    · exact .inr (by decide)
    · exact .inl same
  · rcases member with rfl | same | rfl
    · exact .inr (by decide)
    · exact .inl same
    · exact .inr (by decide)

theorem isIdentifier_unsettledName (case : LetterCase) {c : Char}
    (continues : Java.continuesIdentifier c = true) :
    Java.isIdentifier (case.unsettledName c) = true := by
  rw [Java.isIdentifier_iff]
  cases case <;> simp [unsettledName, continues] <;> decide

end LetterCase

/-- Writing a name a second time changes nothing exactly if no word starts in what the first pass
has written of a fragment. That is so where all characters of the fragments have a form in the case.
A character of identifiers that has none stands in an identifier, all of whose other characters have
one, that is written differently the second time. -/
theorem snake_idempotence (case : LetterCase) (fragments : List String) :
    (case.snake.resolveOne (case.snake.resolve fragments) = case.snake.resolve fragments ↔
      ∀ fragment ∈ fragments, LetterCase.Unbroken [] (case.words [] fragment.toList)) ∧
    ((∀ fragment ∈ fragments, ∀ c ∈ fragment.toList, case.HasForm c) →
      case.snake.resolveOne (case.snake.resolve fragments) = case.snake.resolve fragments) ∧
    ∀ c, Java.continuesIdentifier c = true → ¬ case.HasForm c →
      ∃ name, Java.isIdentifier name = true ∧ c ∈ name.toList ∧
        (∀ d ∈ name.toList, d = c ∨ case.HasForm d) ∧
        case.snake.resolveOne (case.snake.resolve [name]) ≠ case.snake.resolve [name] := by
  refine ⟨case.resolveOne_snake_iff fragments, fun formed => ?_, fun c continues formless => ?_⟩
  · exact (case.resolveOne_snake_iff fragments).mpr fun fragment member =>
      LetterCase.unbroken_words (formed fragment member)
  · refine ⟨case.unsettledName c, case.isIdentifier_unsettledName continues, ?_, ?_, fun same => ?_⟩
    · cases case <;> simp [LetterCase.unsettledName]
    · exact fun d member => (LetterCase.mem_unsettledName member).imp_right case.hasForm_of_ascii
    · exact LetterCase.not_unbroken_unsettledName formless
        ((case.resolveOne_snake_iff _).mp same _ List.mem_cons_self)

/-- All letters of a street's name have capitals, though one has two. -/
theorem streetName_idempotent :
    (∀ fragment ∈ ["straßenName", "ID"], ∀ c ∈ fragment.toList, LetterCase.upper.HasForm c) ∧
      LetterCase.upper.snake.resolve ["straßenName", "ID"] = "STRASSEN_NAME_ID" ∧
      LetterCase.upper.snake.resolveOne
          (LetterCase.upper.snake.resolve ["straßenName", "ID"]) =
        LetterCase.upper.snake.resolve ["straßenName", "ID"] := by
  have formed : ∀ fragment ∈ ["straßenName", "ID"], ∀ c ∈ fragment.toList,
      LetterCase.upper.HasForm c := by
    have checked : ["straßenName", "ID"].all (fun fragment =>
        fragment.toList.all fun c => decide (LetterCase.upper.HasForm c)) = true := by decide
    intro fragment listed c member
    exact of_decide_eq_true
      (List.all_eq_true.mp (List.all_eq_true.mp checked fragment listed) c member)
  exact ⟨formed, by decide, (snake_idempotence .upper _).2.1 formed⟩

/-- The ordinal sign is a small letter without a capital: between capitals it begins a word behind
it. The sign of the reals is a capital without a small letter. -/
theorem ordinalSign_splits_again :
    (Java.isIdentifier "nºserie" = true ∧
      LetterCase.upper.snake.resolve ["nºserie"] = "NºSERIE" ∧
      LetterCase.upper.snake.resolveOne (LetterCase.upper.snake.resolve ["nºserie"]) =
        "Nº_SERIE") ∧
    (Java.isIdentifier "Xℝ" = true ∧
      LetterCase.lower.snake.resolve ["Xℝ"] = "xℝ" ∧
      LetterCase.lower.snake.resolveOne (LetterCase.lower.snake.resolve ["Xℝ"]) = "x_ℝ") := by
  decide +kernel

end EntityMapper
