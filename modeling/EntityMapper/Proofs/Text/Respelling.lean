import EntityMapper.Proofs.Text.LetterCase
import Mathlib.Logic.Relation

/-!
# Text that is spelled differently

Two texts are spellings of each other if one becomes the other by changes of ASCII case and of runs of
blanks, where runs at either end may also come and go. That is so exactly if they have the same words
in lower case (`lowerWords_eq_iff`).
-/
namespace EntityMapper.Text

/-- One change of spelling. -/
inductive Respelled : List Char → List Char → Prop where
  | case (before after : List Char) {c d : Char} (same : c.toLower = d.toLower) :
    Respelled (before ++ c :: after) (before ++ d :: after)
  | gap (before after : List Char) {run other : List Char} (filled : run ≠ []) (also : other ≠ [])
    (blank : ∀ c ∈ run ++ other, isBlank c = true) :
    Respelled (before ++ (run ++ after)) (before ++ (other ++ after))
  | lead {run : List Char} (blank : ∀ c ∈ run, isBlank c = true) (after : List Char) :
    Respelled (run ++ after) after
  | trail (before : List Char) {run : List Char} (blank : ∀ c ∈ run, isBlank c = true) :
    Respelled (before ++ run) before

/-- Equal up to changes of spelling. -/
def SameSpelling : List Char → List Char → Prop :=
  Relation.EqvGen Respelled

/-- The stretches between blanks. -/
def words (cs : List Char) : List (List Char) :=
  (cs.splitOnP isBlank).filter (· ≠ [])

def lowerWords (cs : List Char) : List (List Char) :=
  (words cs).map (·.map Char.toLower)

theorem toLower_of_not_ascii {c : Char} (other : ¬ c.toNat < asciiLimit) : c.toLower = c := by
  have small : ¬ (c.val ≥ 'A'.val ∧ c.val ≤ 'Z'.val) := by
    rintro ⟨-, below⟩
    exact other (Nat.lt_of_le_of_lt below (by decide))
  exact dif_neg small

theorem isBlank_toLower (c : Char) : isBlank c.toLower = isBlank c := by
  by_cases ascii : c.toNat < asciiLimit
  · exact forall_ascii (p := fun c => isBlank c.toLower = isBlank c) (by decide) c ascii
  · rw [toLower_of_not_ascii ascii]

theorem toLower_toLower (c : Char) : c.toLower.toLower = c.toLower := by
  by_cases ascii : c.toNat < asciiLimit
  · exact forall_ascii (p := fun c => c.toLower.toLower = c.toLower) (by decide) c ascii
  · rw [toLower_of_not_ascii ascii, toLower_of_not_ascii ascii]

theorem words_nil : words [] = [] := rfl

/-- What else is said of words follows from how a blank cuts them. -/
theorem words_append_cons {c : Char} (blank : isBlank c = true) (before after : List Char) :
    words (before ++ c :: after) = words before ++ words after := by
  rw [words, List.splitOnP_append_cons before after blank, List.filter_append]
  rfl

theorem words_blank_append {run : List Char} (blank : ∀ c ∈ run, isBlank c = true)
    (after : List Char) : words (run ++ after) = words after := by
  induction run with
  | nil => rfl
  | cons c run ih =>
    obtain ⟨first, others⟩ := List.forall_mem_cons.mp blank
    have cut := words_append_cons first [] (run ++ after)
    exact cut.trans (ih others)

theorem words_append_blank_append {run : List Char} (filled : run ≠ [])
    (blank : ∀ c ∈ run, isBlank c = true) (before after : List Char) :
    words (before ++ (run ++ after)) = words before ++ words after := by
  obtain ⟨c, run, rfl⟩ := List.exists_cons_of_ne_nil filled
  obtain ⟨first, others⟩ := List.forall_mem_cons.mp blank
  rw [List.cons_append, words_append_cons first, words_blank_append others]

theorem words_of_solid {word : List Char} (filled : word ≠ [])
    (solid : ∀ c ∈ word, isBlank c = false) : words word = [word] := by
  rw [words, List.splitOnP_eq_singleton solid]
  simp [filled]

theorem splitOnP_map {α : Type} {p : α → Bool} {f : α → α} (kept : ∀ a, p (f a) = p a)
    (list : List α) : (list.map f).splitOnP p = (list.splitOnP p).map (·.map f) := by
  induction list with
  | nil => rfl
  | cons a rest ih =>
    rw [List.map_cons, List.splitOnP_cons_eq_if_modifyHead, List.splitOnP_cons_eq_if_modifyHead,
      kept, ih]
    cases p a
    · cases rest.splitOnP p <;> rfl
    · rfl

theorem lowerWords_eq (cs : List Char) : lowerWords cs = words (cs.map Char.toLower) := by
  rw [lowerWords, words, words, splitOnP_map isBlank_toLower, List.filter_map]
  congr 2
  funext word
  simp

theorem Respelled.lowerWords {a b : List Char} (change : Respelled a b) :
    Text.lowerWords a = Text.lowerWords b := by
  cases change with
  | case before after same => simp [lowerWords_eq, same]
  | gap before after filled also blank =>
    have first := words_append_blank_append filled
      (fun c member => blank c (List.mem_append_left _ member)) before after
    have second := words_append_blank_append also
      (fun c member => blank c (List.mem_append_right _ member)) before after
    rw [Text.lowerWords, Text.lowerWords, first, second]
  | lead blank => rw [Text.lowerWords, Text.lowerWords, words_blank_append blank]
  | @trail _ run blank =>
    by_cases filled : run = []
    · rw [filled, List.append_nil]
    · have cut := words_append_blank_append filled blank b []
      rw [List.append_nil] at cut
      rw [Text.lowerWords, Text.lowerWords, cut, words_nil, List.append_nil]

namespace SameSpelling

variable {a b c : List Char}

theorem refl (a : List Char) : SameSpelling a a :=
  Relation.EqvGen.refl a

theorem symm (same : SameSpelling a b) : SameSpelling b a :=
  Relation.EqvGen.symm a b same

theorem trans (first : SameSpelling a b) (second : SameSpelling b c) : SameSpelling a c :=
  Relation.EqvGen.trans a b c first second

theorem of_respelled (change : Respelled a b) : SameSpelling a b :=
  Relation.EqvGen.rel a b change

theorem lowerWords (same : SameSpelling a b) : Text.lowerWords a = Text.lowerWords b := by
  induction same with
  | rel a b change => exact change.lowerWords
  | refl a => rfl
  | symm a b _ ih => exact ih.symm
  | trans a b c _ _ first second => exact first.trans second

/-- A blank shields what stands before it from changes behind. -/
theorem behind (word : List Char) {blank : Char} (isGap : isBlank blank = true)
    (same : SameSpelling a b) : SameSpelling (word ++ blank :: a) (word ++ blank :: b) := by
  induction same with
  | rel a b change =>
    refine of_respelled ?_
    cases change with
    | case before after same =>
      simpa using Respelled.case (word ++ blank :: before) after same
    | gap before after filled also blanks =>
      simpa using Respelled.gap (word ++ blank :: before) after filled also blanks
    | @lead run blanks =>
      have all : ∀ c ∈ blank :: run ++ [blank], isBlank c = true := by
        simp only [List.mem_append, List.mem_cons, List.not_mem_nil, or_false]
        rintro c ((rfl | inRun) | rfl)
        · exact isGap
        · exact blanks c inRun
        · exact isGap
      simpa using Respelled.gap word b (by simp) (by simp) all
    | trail _ blanks => simpa using Respelled.trail (word ++ blank :: b) blanks
  | refl a => exact refl _
  | symm a b _ ih => exact ih.symm
  | trans a b c _ _ first second => exact first.trans second

/-- Every text is a spelling of itself in lower case. -/
theorem map_toLower (before cs : List Char) :
    SameSpelling (before ++ cs) (before ++ cs.map Char.toLower) := by
  induction cs generalizing before with
  | nil => exact refl _
  | cons c cs ih =>
    have first := of_respelled (Respelled.case before cs (toLower_toLower c).symm)
    have others := ih (before ++ [c.toLower])
    exact first.trans (by simpa using others)

/-- Every text is a spelling of its words with single blanks between them. -/
theorem intercalate_words (word cs : List Char) (solid : ∀ c ∈ word, isBlank c = false) :
    SameSpelling (word ++ cs) ([' '].intercalate (words (word ++ cs))) := by
  induction cs generalizing word with
  | nil =>
    rw [List.append_nil]
    by_cases filled : word = []
    · rw [filled, words_nil]
      exact refl []
    · rw [words_of_solid filled solid, List.intercalate_singleton]
      exact refl word
  | cons c cs ih =>
    by_cases blank : isBlank c = true
    · have single : ∀ d ∈ [c], isBlank d = true := by simpa using blank
      have later : SameSpelling cs ([' '].intercalate (words cs)) := ih [] (by simp)
      rw [words_append_cons blank]
      by_cases filled : word = []
      · rw [filled, words_nil]
        exact (of_respelled (.lead single cs)).trans later
      · rw [words_of_solid filled solid, List.singleton_append]
        refine (behind word blank later).trans ?_
        cases words cs with
        | nil =>
          rw [List.intercalate_singleton]
          exact of_respelled (.trail word single)
        | cons next rest =>
          rw [List.intercalate_cons_cons]
          have both : ∀ d ∈ [c] ++ [' '], isBlank d = true := by
            have space : isBlank ' ' = true := by decide
            simp [blank, space]
          have change := Respelled.gap word ([' '].intercalate (next :: rest)) (by simp) (by simp) both
          simpa using of_respelled change
    · have longer : ∀ d ∈ word ++ [c], isBlank d = false := by
        simp only [List.mem_append, List.mem_singleton]
        rintro d (inWord | rfl)
        · exact solid d inWord
        · simpa using blank
      simpa using ih (word ++ [c]) longer

end SameSpelling

/-- Two texts are spellings of each other exactly if they have the same words in lower case. -/
theorem lowerWords_eq_iff {a b : List Char} : lowerWords a = lowerWords b ↔ SameSpelling a b := by
  refine ⟨fun same => ?_, SameSpelling.lowerWords⟩
  have settled (cs : List Char) : SameSpelling cs ([' '].intercalate (lowerWords cs)) := by
    rw [lowerWords_eq]
    have single := SameSpelling.intercalate_words [] (cs.map Char.toLower) (by simp)
    exact (SameSpelling.map_toLower [] cs).trans single
  exact (settled a).trans (same ▸ (settled b).symm)

end EntityMapper.Text
