import EntityMapper.Proofs.Naming.Confluence
import EntityMapper.Proofs.Naming.Idempotence
import Mathlib.Data.List.Chain

/-!
# Joining fragments

A built-in strategy writes each fragment that is not empty on its own and puts one `_` between
neighbours (`resolve_eq_intercalate`). So the name of two lists of fragments is made of their names
(`resolve_append`), and a name begins with that of the first fragments (`resolve_prefix`). Beside `_` the
name holds the letters of the fragments (`filter_resolve`), and for fragments of ASCII letters and digits
every `_` stands alone between two of them (`tidy_resolve`).
-/
namespace EntityMapper

/-- Two names joined by one `_`, or the one that is there. -/
def joinNames (first second : String) : String :=
  if first = "" then second else if second = "" then first else first ++ "_" ++ second

/-- No `_` at either end, and no two that follow each other. -/
structure Tidy (chars : List Char) : Prop where
  begins : chars.head? ≠ some '_'
  ends : chars.getLast? ≠ some '_'
  spaced : chars.IsChain fun a b => a ≠ '_' ∨ b ≠ '_'

/-- Parts that are tidy and not empty are so joined by one `_`. -/
theorem tidy_intercalate {parts : List (List Char)}
    (tidy : ∀ part ∈ parts, part ≠ [] ∧ Tidy part) : Tidy (List.intercalate ['_'] parts) := by
  induction parts with
  | nil => exact ⟨nofun, nofun, .nil⟩
  | cons part rest ih =>
    obtain ⟨⟨filled, own⟩, others⟩ := List.forall_mem_cons.mp tidy
    cases rest with
    | nil =>
      rw [List.intercalate_singleton]
      exact own
    | cons next rest =>
      have later := ih others
      obtain ⟨first, tail, written⟩ : ∃ first tail,
          List.intercalate ['_'] (next :: rest) = first :: tail := by
        obtain ⟨tail, whole⟩ := LetterCase.exists_intercalate_cons ['_'] next rest
        obtain ⟨first, after, spelled⟩ := List.exists_cons_of_ne_nil (others next List.mem_cons_self).1
        exact ⟨first, after ++ tail, by rw [whole, spelled, List.cons_append]⟩
      rw [List.intercalate_cons_cons]
      refine ⟨?_, ?_, ?_⟩
      · rw [List.append_assoc, List.head?_append_of_ne_nil _ filled]
        exact own.begins
      · rw [List.getLast?_append_of_ne_nil _ (by simp [written])]
        exact later.ends
      · have chain := later.spaced
        rw [written] at chain ⊢
        have starts : first ≠ '_' := fun mark => later.begins (by rw [written, mark]; rfl)
        rw [List.append_assoc, List.singleton_append]
        refine List.isChain_append.mpr ⟨own.spaced,
          List.isChain_cons_cons.mpr ⟨.inr starts, chain⟩, fun last member _ _ => .inl ?_⟩
        rintro rfl
        exact own.ends member

namespace LetterCase

/-- Each fragment that is not empty is written on its own. -/
theorem resolve_eq_intercalate (case : LetterCase) (fragments : List String) :
    case.snake.resolve fragments =
      "_".intercalate ((fragments.filter (· ≠ "")).map case.snake.resolveOne) := by
  apply String.toList_injective
  have kept : (fragments.map String.toList).filter (· ≠ []) =
      (fragments.filter (· ≠ "")).map String.toList := by
    rw [List.filter_map]
    congr 1
    refine List.filter_congr fun fragment _ => ?_
    simp
  have written : String.toList ∘ case.snake.resolveOne = case.words [] ∘ String.toList := by
    funext fragment
    simp [resolveOne_eq]
  rw [String.toList_intercalate, List.map_map, written, ← List.map_map, ← kept, snake,
    String.toList_ofList, join]
  rfl

theorem resolveOne_eq_empty_iff (case : LetterCase) (name : String) :
    case.snake.resolveOne name = "" ↔ name = "" := by
  constructor
  · intro empty
    rw [resolveOne_eq] at empty
    have longer := case.length_le_words [] name.toList
    rw [String.ofList_eq_empty_iff.mp empty] at longer
    simpa using longer
  · rintro rfl
    rfl

/-- A name is empty if all fragments are. -/
theorem resolve_eq_empty_iff (case : LetterCase) (fragments : List String) :
    case.snake.resolve fragments = "" ↔ fragments.filter (· ≠ "") = [] := by
  rw [resolve_eq_intercalate]
  cases filtered : fragments.filter (· ≠ "") with
  | nil => simp
  | cons fragment rest =>
    have member : fragment ∈ fragments.filter (· ≠ "") := filtered ▸ List.mem_cons_self
    have filled : fragment ≠ "" := by simpa using (List.mem_filter.mp member).2
    have written := mt (case.resolveOne_eq_empty_iff fragment).mp filled
    cases rest with
    | nil => simpa using written
    | cons next rest =>
      rw [List.map_cons, List.map_cons, String.intercalate_cons_cons]
      simp

/-- The name of two lists of fragments is made of their names. -/
theorem resolve_append (case : LetterCase) (first second : List String) :
    case.snake.resolve (first ++ second) =
      joinNames (case.snake.resolve first) (case.snake.resolve second) := by
  rw [joinNames]
  split
  · rename_i nothing
    rw [resolve_eq_empty_iff] at nothing
    rw [resolve_eq_intercalate, resolve_eq_intercalate, List.filter_append, nothing, List.nil_append]
  · rename_i something
    split
    · rename_i nothing
      rw [resolve_eq_empty_iff] at nothing
      rw [resolve_eq_intercalate, resolve_eq_intercalate, List.filter_append, nothing,
        List.append_nil]
    · rename_i more
      rw [resolve_eq_empty_iff] at something more
      rw [resolve_eq_intercalate, List.filter_append, List.map_append,
        String.intercalate_append_of_ne_nil (by simpa using something) (by simpa using more),
        ← resolve_eq_intercalate, ← resolve_eq_intercalate]

theorem resolve_prefix (case : LetterCase) (first second : List String) :
    (case.snake.resolve first).toList <+: (case.snake.resolve (first ++ second)).toList := by
  rw [resolve_append, joinNames]
  split
  · rename_i nothing
    rw [nothing]
    exact List.nil_prefix
  · split
    · exact List.prefix_rfl
    · rw [String.toList_append, String.toList_append, List.append_assoc]
      exact List.prefix_append _ _

/-- Beside `_` a name holds the letters of its fragments in the letter case. -/
theorem filter_resolve (case : LetterCase) (fragments : List String) :
    (case.snake.resolve fragments).toList.filter (· ≠ '_') =
      (case.text (String.join fragments)).toList.filter (· ≠ '_') := by
  induction fragments with
  | nil => rfl
  | cons fragment rest ih =>
    have single : (case.snake.resolve [fragment]).toList.filter (· ≠ '_') =
        (case.text fragment).toList.filter (· ≠ '_') := by
      rw [← NamingStrategy.resolveOne, resolveOne_eq, text, String.toList_ofList,
        String.toList_ofList, filter_words]
    have joined : (case.snake.resolve (fragment :: rest)).toList.filter (· ≠ '_') =
        (case.snake.resolve [fragment]).toList.filter (· ≠ '_') ++
          (case.snake.resolve rest).toList.filter (· ≠ '_') := by
      rw [← List.singleton_append, resolve_append, joinNames]
      split
      · rename_i nothing
        simp [nothing]
      · split
        · rename_i nothing
          simp [nothing]
        · simp [List.filter_append]
    rw [joined, single, ih, String.join_cons]
    simp [text, List.filter_append]

/-- A letter or digit of ASCII is mapped to one character, which is not `_`. -/
theorem exists_apply_eq (case : LetterCase) {c : Char} (plain : c.isAlphanum = true) :
    ∃ d, case.apply c = [d] ∧ d ≠ '_' := by
  have checked : ∀ code < Text.asciiLimit, (Char.ofNat code).isAlphanum = true →
      (case.apply (Char.ofNat code)).length = 1 ∧ '_' ∉ case.apply (Char.ofNat code) := by
    cases case <;> decide
  obtain ⟨single, unmarked⟩ := Text.forall_ascii
    (p := fun c => c.isAlphanum = true → (case.apply c).length = 1 ∧ '_' ∉ case.apply c)
    checked c (Text.lt_asciiLimit_of_isAlphanum plain) plain
  obtain ⟨d, mapped⟩ := List.length_eq_one_iff.mp single
  exact ⟨d, mapped, fun mark => unmarked (by simp [mapped, mark])⟩

/-- No `_` ends the words of letters and digits, and no two follow each other. -/
theorem spaced_words (case : LetterCase) (before : List Char) {chars : List Char}
    (plain : ∀ c ∈ chars, c.isAlphanum = true) :
    (case.words before chars).getLast? ≠ some '_' ∧
      (case.words before chars).IsChain fun a b => a ≠ '_' ∨ b ≠ '_' := by
  induction chars generalizing before with
  | nil => exact ⟨nofun, .nil⟩
  | cons c after ih =>
    obtain ⟨first, others⟩ := List.forall_mem_cons.mp plain
    obtain ⟨d, mapped, letter⟩ := case.exists_apply_eq first
    obtain ⟨ends, spaced⟩ := ih (c :: before) others
    have kept : (d :: case.words (c :: before) after).IsChain fun a b => a ≠ '_' ∨ b ≠ '_' :=
      List.isChain_cons.mpr ⟨fun _ _ => .inl letter, spaced⟩
    have last : (d :: case.words (c :: before) after).getLast? ≠ some '_' := by
      rw [List.getLast?_cons]
      cases rest : (case.words (c :: before) after).getLast? with
      | none => simpa using letter
      | some e => simpa [rest] using ends
    rw [words, mapped, List.append_assoc, List.singleton_append]
    split
    · refine ⟨?_, List.isChain_cons.mpr ⟨fun e next => .inr ?_, kept⟩⟩
      · rw [List.singleton_append, List.getLast?_cons_cons]
        exact last
      · cases next
        exact letter
    · exact ⟨last, kept⟩

theorem tidy_words (case : LetterCase) {chars : List Char}
    (plain : ∀ c ∈ chars, c.isAlphanum = true) : Tidy (case.words [] chars) := by
  obtain ⟨ends, spaced⟩ := case.spaced_words [] plain
  refine ⟨?_, ends, spaced⟩
  cases chars with
  | nil => nofun
  | cons c after =>
    -- no word starts at the first character
    obtain ⟨d, mapped, letter⟩ := case.exists_apply_eq (plain c List.mem_cons_self)
    simpa [words, startsWord, mapped] using letter

/-- Fragments of letters and digits make a tidy name. -/
theorem tidy_resolve (case : LetterCase) {fragments : List String}
    (plain : ∀ fragment ∈ fragments, ∀ c ∈ fragment.toList, c.isAlphanum = true) :
    Tidy (case.snake.resolve fragments).toList := by
  rw [snake, String.toList_ofList, join]
  refine tidy_intercalate fun part member => ?_
  obtain ⟨chars, kept, rfl⟩ := List.mem_map.mp member
  obtain ⟨listed, filled⟩ := List.mem_filter.mp kept
  obtain ⟨fragment, inFragments, rfl⟩ := List.mem_map.mp listed
  refine ⟨fun nothing => ?_, case.tidy_words (plain fragment inFragments)⟩
  have longer := case.length_le_words [] fragment.toList
  rw [nothing, List.length_nil, Nat.le_zero, List.length_eq_zero_iff] at longer
  simp [longer] at filled

/-- Without `_` the name of letters and digits is their text in the letter case. -/
theorem erase_resolve (case : LetterCase) {fragments : List String}
    (plain : ∀ fragment ∈ fragments, ∀ c ∈ fragment.toList, c.isAlphanum = true) :
    String.ofList ((case.snake.resolve fragments).toList.filter (· ≠ '_')) =
      case.text (String.join fragments) := by
  have unmarked : ∀ d ∈ (case.text (String.join fragments)).toList, d ≠ '_' := by
    intro d member
    rw [text, String.toList_ofList] at member
    obtain ⟨c, joined, mapped⟩ := List.mem_flatMap.mp member
    rw [String.toList_join] at joined
    obtain ⟨fragment, listed, inside⟩ := List.mem_flatMap.mp joined
    obtain ⟨e, single, letter⟩ := case.exists_apply_eq (plain fragment listed c inside)
    rw [single, List.mem_singleton] at mapped
    exact mapped ▸ letter
  rw [filter_resolve, List.filter_eq_self.mpr (by simpa using unmarked), String.ofList_toList]

end LetterCase

end EntityMapper
