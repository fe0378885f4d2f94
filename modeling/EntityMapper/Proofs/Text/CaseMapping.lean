import EntityMapper.Text.Character
import Mathlib.Data.List.Basic

/-!
# Case mappings map once

A case mapping leaves alone what it has written (`upperCase_of_mem`, `lowerCase_of_mem`), and it
writes a letter of the other case only where it leaves a letter as it is: one that has no form in the
case (`upperCase_eq_self`, `lowerCase_eq_self`). Both are facts about the tables: the codes that a
mapping leads to are compared with those it moves and with those of the other case, as sets of
numbers (`Apart`).
-/
namespace EntityMapper.Text

/-- The code points of the range, ascending. -/
def CodeRange.codes (range : CodeRange) : List Nat :=
  List.range' range.first ((range.last - range.first) / range.step + 1) range.step

theorem CodeRange.mem_codes {range : CodeRange} {code : Nat} (inside : range.contains code = true) :
    code ∈ range.codes := by
  simp only [contains, Bool.and_eq_true, decide_eq_true_eq, beq_iff_eq] at inside
  obtain ⟨⟨above, below⟩, stepped⟩ := inside
  have whole : range.step * ((code - range.first) / range.step) = code - range.first :=
    Nat.mul_div_cancel' (Nat.dvd_of_mod_eq_zero stepped)
  have counted : (code - range.first) / range.step ≤ (range.last - range.first) / range.step :=
    Nat.div_le_div_right (by omega)
  exact List.mem_range'.mpr ⟨(code - range.first) / range.step, by omega, by omega⟩

/-- A set of numbers as the binary digits of one number, which the kernel compares at once. -/
def digits (codes : List Nat) : Nat :=
  codes.foldr (fun code set => set ||| 1 <<< code) 0

theorem testBit_digits {codes : List Nat} {code : Nat} (member : code ∈ codes) :
    (digits codes).testBit code = true := by
  induction codes with
  | nil => cases member
  | cons first rest ih =>
    rw [digits, List.foldr_cons, Nat.testBit_or, Bool.or_eq_true]
    rcases List.mem_cons.mp member with rfl | inRest
    · exact .inr (by simp [Nat.testBit_shiftLeft])
    · exact .inl (ih inRest)

/-- The lists have no number in common. -/
def Apart (first second : List Nat) : Prop :=
  digits first &&& digits second = 0

instance (first second : List Nat) : Decidable (Apart first second) :=
  inferInstanceAs (Decidable (_ = _))

theorem Apart.not_mem {first second : List Nat} (apart : Apart first second) {code : Nat}
    (member : code ∈ first) : code ∉ second := by
  intro other
  have both : (digits first &&& digits second).testBit code = true := by
    rw [Nat.testBit_and, testBit_digits member, testBit_digits other, Bool.and_true]
  rw [show digits first &&& digits second = 0 from apart] at both
  simp at both

/-- The code points of a character class: those of ASCII and those of its table. -/
def classCodes (ofAscii : Char → Bool) (ranges : List CodeRange) : List Nat :=
  (List.range asciiLimit).filter (fun code => ofAscii (Char.ofNat code)) ++
    ranges.flatMap (·.codes)

theorem mem_classCodes {ofAscii : Char → Bool} {ranges : List CodeRange} {c : Char}
    (belongs : (if c.toNat < asciiLimit then ofAscii c else ranges.any (·.contains c.toNat)) = true) :
    c.toNat ∈ classCodes ofAscii ranges := by
  split at belongs
  · rename_i small
    exact List.mem_append_left _ (List.mem_filter.mpr ⟨List.mem_range.mpr small, by simpa⟩)
  · obtain ⟨range, inRanges, inside⟩ := List.any_eq_true.mp belongs
    exact List.mem_append_right _ (List.mem_flatMap.mpr ⟨range, inRanges, range.mem_codes inside⟩)

/-- Beyond ASCII a character is expanded, shifted or left as it is. -/
theorem mapCase_cases (expansions : List (Nat × List Nat)) (shifts : List CodeShift) (c : Char) :
    (∃ codes, (c.toNat, codes) ∈ expansions ∧
      mapCase expansions shifts c = codes.map Char.ofNat) ∨
    (∃ shift ∈ shifts, c.toNat ∈ shift.range.codes ∧
      mapCase expansions shifts c = [Char.ofNat (c.toNat + shift.offset).toNat]) ∨
    mapCase expansions shifts c = [c] := by
  rw [mapCase]
  split
  · rename_i codes listed
    obtain ⟨before, after, split, _⟩ := List.lookup_eq_some_iff.mp listed
    exact .inl ⟨codes, by simp [split], rfl⟩
  · split
    · rename_i shift found
      have inside : shift.range.contains c.toNat = true :=
        List.find?_some (p := fun shift : CodeShift => shift.range.contains c.toNat) found
      exact .inr (.inl ⟨shift, List.mem_of_find?_eq_some found, CodeRange.mem_codes inside, rfl⟩)
    · exact .inr (.inr rfl)

/-- A code that is no character's stands for the character zero. -/
theorem toNat_ofNat_mem {codes : List Nat} {code : Nat} (member : code ∈ codes) :
    (Char.ofNat code).toNat ∈ 0 :: codes := by
  by_cases valid : code.isValidChar
  · have kept : (Char.ofNat code).toNat = code := by
      rw [Char.ofNat, dif_pos valid]
      rfl
    rw [kept]
    exact List.mem_cons_of_mem _ member
  · have zero : (Char.ofNat code).toNat = 0 := by
      rw [Char.ofNat, dif_neg valid]
      rfl
    rw [zero]
    exact List.mem_cons_self

/-- A case mapping: what it does to ASCII and the tables it reads for all else. -/
structure CaseMapping where
  ofAscii : Char → Char
  expansions : List (Nat × List Nat)
  shifts : List CodeShift

namespace CaseMapping

def map (mapping : CaseMapping) (c : Char) : List Char :=
  if c.toNat < asciiLimit then [mapping.ofAscii c]
  else mapCase mapping.expansions mapping.shifts c

/-- The code points that are not mapped to themselves. -/
def moved (mapping : CaseMapping) : List Nat :=
  (List.range asciiLimit).filter (fun code =>
      mapping.ofAscii (Char.ofNat code) != Char.ofNat code) ++
    mapping.expansions.map (·.1) ++ mapping.shifts.flatMap (·.range.codes)

/-- The code points that others are mapped to; zero stands for all codes that are no characters. -/
def reached (mapping : CaseMapping) : List Nat :=
  0 :: ((List.range asciiLimit).map (fun code => (mapping.ofAscii (Char.ofNat code)).toNat) ++
    mapping.expansions.flatMap (·.2) ++
    mapping.shifts.flatMap fun shift =>
      shift.range.codes.map fun code : Nat => (code + shift.offset).toNat)

variable {mapping : CaseMapping}

theorem map_of_not_mem_moved {c : Char} (stays : c.toNat ∉ mapping.moved) : mapping.map c = [c] := by
  simp only [moved, List.mem_append, not_or] at stays
  obtain ⟨⟨unmoved, unlisted⟩, unshifted⟩ := stays
  rw [map]
  split
  · rename_i small
    by_contra differs
    refine unmoved (List.mem_filter.mpr ⟨List.mem_range.mpr small, ?_⟩)
    simpa using differs
  · rcases mapCase_cases mapping.expansions mapping.shifts c with
      ⟨codes, listed, _⟩ | ⟨shift, member, inside, _⟩ | self
    · exact absurd (List.mem_map.mpr ⟨_, listed, rfl⟩) unlisted
    · exact absurd (List.mem_flatMap.mpr ⟨shift, member, inside⟩) unshifted
    · exact self

/-- A character is left as it is or mapped to what the mapping reaches. -/
theorem mem_map {c d : Char} (mapped : d ∈ mapping.map c) :
    mapping.map c = [c] ∨ d.toNat ∈ mapping.reached := by
  rw [map] at mapped ⊢
  split at mapped
  · rename_i small
    refine .inr (List.mem_cons_of_mem _ (List.mem_append_left _ (List.mem_append_left _ ?_)))
    exact List.mem_map.mpr ⟨c.toNat, List.mem_range.mpr small,
      by rw [Char.ofNat_toNat, List.mem_singleton.mp mapped]⟩
  · rename_i large
    rw [if_neg large]
    rcases mapCase_cases mapping.expansions mapping.shifts c with
      ⟨codes, listed, expanded⟩ | ⟨shift, member, inside, shifted⟩ | self
    · obtain ⟨code, inCodes, rfl⟩ := List.mem_map.mp (expanded ▸ mapped)
      refine .inr (toNat_ofNat_mem (List.mem_append_left _ (List.mem_append_right _ ?_)))
      exact List.mem_flatMap.mpr ⟨_, listed, inCodes⟩
    · rw [shifted, List.mem_singleton] at mapped
      rw [mapped]
      refine .inr (toNat_ofNat_mem (List.mem_append_right _ ?_))
      exact List.mem_flatMap.mpr ⟨shift, member, List.mem_map.mpr ⟨_, inside, rfl⟩⟩
    · exact .inl self

/-- What is written is left alone, if no code is both reached and moved. -/
theorem map_of_mem {others : List Nat} (apart : Apart mapping.reached (mapping.moved ++ others))
    {c d : Char} (mapped : d ∈ mapping.map c) : mapping.map d = [d] := by
  rcases mem_map mapped with self | reached
  · rw [self, List.mem_singleton] at mapped
    rw [mapped, self]
  · exact map_of_not_mem_moved fun member =>
      apart.not_mem reached (List.mem_append_left _ member)

/-- Characters that the mapping does not reach are written only where they are left alone. -/
theorem map_eq_self {others : List Nat} (apart : Apart mapping.reached (mapping.moved ++ others))
    {c d : Char} (mapped : d ∈ mapping.map c) (other : d.toNat ∈ others) : mapping.map c = [c] := by
  rcases mem_map mapped with self | reached
  · exact self
  · exact absurd (List.mem_append_right _ other) (apart.not_mem reached)

end CaseMapping

def upperMapping : CaseMapping := ⟨Char.toUpper, upperExpansions, upperShifts⟩

def lowerMapping : CaseMapping := ⟨Char.toLower, lowerExpansions, lowerShifts⟩

theorem upperMapping_apart : Apart upperMapping.reached
    (upperMapping.moved ++ classCodes Char.isLower lowercaseRanges) := by
  decide +kernel

theorem lowerMapping_apart : Apart lowerMapping.reached
    (lowerMapping.moved ++ classCodes Char.isUpper uppercaseRanges) := by
  decide +kernel

theorem upperCase_of_mem {c d : Char} (mapped : d ∈ upperCase c) : upperCase d = [d] :=
  CaseMapping.map_of_mem upperMapping_apart mapped

theorem lowerCase_of_mem {c d : Char} (mapped : d ∈ lowerCase c) : lowerCase d = [d] :=
  CaseMapping.map_of_mem lowerMapping_apart mapped

/-- Upper case holds a small letter only where it has no form of its own. -/
theorem upperCase_eq_self {c d : Char} (mapped : d ∈ upperCase c) (small : isLowercase d = true) :
    upperCase c = [c] :=
  CaseMapping.map_eq_self upperMapping_apart mapped (mem_classCodes small)

/-- Lower case holds a capital only where it has no form of its own. -/
theorem lowerCase_eq_self {c d : Char} (mapped : d ∈ lowerCase c) (capital : isUppercase d = true) :
    lowerCase c = [c] :=
  CaseMapping.map_eq_self lowerMapping_apart mapped (mem_classCodes capital)

end EntityMapper.Text
