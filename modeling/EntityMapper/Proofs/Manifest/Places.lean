import EntityMapper.Manifest.Locator
import Mathlib.Data.List.Basic

/-!
# Places of names in a manifest

Offsets count bytes, the search goes by characters. Each occurrence cuts the text into what stands
before it, the pattern and what follows (`mem_occurrences`), and the next one starts behind it
(`occurrences_pairwise`). So a span that a locator finds lies on characters of the source and holds the
name, whichever of the two patterns it came from, and the spans of a name follow each other from the
anchor on (`Locator.spans_covers`, `Locator.spans_pairwise`).
-/
namespace EntityMapper

namespace Text

def byteSize (chars : List Char) : Nat :=
  (String.ofList chars).utf8ByteSize

theorem byteSize_cons (c : Char) (chars : List Char) :
    byteSize (c :: chars) = c.utf8Size + byteSize chars := by
  rw [byteSize, byteSize, String.ofList_cons, String.utf8ByteSize_append,
    String.utf8ByteSize_singleton]

theorem byteSize_append (chars more : List Char) :
    byteSize (chars ++ more) = byteSize chars + byteSize more := by
  rw [byteSize, byteSize, byteSize, String.ofList_append, String.utf8ByteSize_append]

theorem byteSize_le_of_starts {chars longer : List Char} (starts : chars <+: longer) :
    byteSize chars ≤ byteSize longer := by
  obtain ⟨rest, rfl⟩ := starts
  rw [byteSize_append]
  exact Nat.le_add_right _ _

end Text

open Text (byteSize byteSize_cons byteSize_le_of_starts)

/-- The pattern stands in the text behind a stretch of so many bytes and at least so many characters. -/
def StandsAt (pattern chars : List Char) (bytes skip : Nat) : Prop :=
  ∃ before after, chars = before ++ (pattern ++ after) ∧ bytes = byteSize before ∧
    skip ≤ before.length

section Occurrences

variable {pattern : List Char}

theorem StandsAt.cons {rest : List Char} {bytes skip : Nat} (stands : StandsAt pattern rest bytes skip)
    (c : Char) : StandsAt pattern (c :: rest) (c.utf8Size + bytes) (skip + 1) := by
  obtain ⟨before, after, rfl, rfl, far⟩ := stands
  exact ⟨c :: before, after, rfl, (byteSize_cons c before).symm, Nat.succ_le_succ far⟩

theorem StandsAt.mono {chars : List Char} {bytes skip : Nat}
    (stands : StandsAt pattern chars bytes skip) : StandsAt pattern chars bytes 0 := by
  obtain ⟨before, after, split, size, _⟩ := stands
  exact ⟨before, after, split, size, Nat.zero_le _⟩

/-- What is found stands in the text, behind the characters to be skipped. -/
theorem mem_occurrencesFrom {offset skip found : Nat} {chars : List Char}
    (met : found ∈ occurrencesFrom pattern offset skip chars) :
    ∃ bytes, found = offset + bytes ∧ StandsAt pattern chars bytes skip := by
  fun_induction occurrencesFrom pattern offset skip chars with
  | case1 => cases met
  | case2 offset skip c rest ih =>
    obtain ⟨bytes, rfl, stands⟩ := ih met
    exact ⟨_, Nat.add_assoc _ _ _, stands.cons c⟩
  | case3 offset c rest starts ih =>
    rcases List.mem_cons.mp met with rfl | later
    · obtain ⟨after, split⟩ := List.isPrefixOf_iff_prefix.mp starts
      exact ⟨0, rfl, [], after, split.symm, rfl, Nat.le_refl 0⟩
    · obtain ⟨bytes, rfl, stands⟩ := ih later
      exact ⟨_, Nat.add_assoc _ _ _, (stands.cons c).mono⟩
  | case4 offset c rest _ ih =>
    obtain ⟨bytes, rfl, stands⟩ := ih met
    exact ⟨_, Nat.add_assoc _ _ _, (stands.cons c).mono⟩

/-- What is found behind an occurrence starts where that one ends or later. -/
theorem byteSize_le_of_standsAt {c : Char} {rest : List Char} {bytes : Nat}
    (starts : pattern <+: c :: rest) (stands : StandsAt pattern rest bytes (pattern.length - 1)) :
    byteSize pattern ≤ c.utf8Size + bytes := by
  cases pattern with
  | nil => exact Nat.zero_le _
  | cons first tail =>
    obtain ⟨rfl, behind⟩ := List.cons_prefix_cons.mp starts
    obtain ⟨before, after, rfl, rfl, far⟩ := stands
    rw [byteSize_cons]
    -- both start the same rest, and as many characters are skipped as the tail has
    have covered : tail <+: before :=
      List.prefix_of_prefix_length_le behind (List.prefix_append _ _) far
    exact Nat.add_le_add_left (byteSize_le_of_starts covered) _

theorem occurrencesFrom_pairwise (pattern : List Char) (offset skip : Nat) (chars : List Char) :
    (occurrencesFrom pattern offset skip chars).Pairwise fun first second =>
      first + byteSize pattern ≤ second := by
  fun_induction occurrencesFrom pattern offset skip chars with
  | case1 => exact .nil
  | case2 offset skip c rest ih => exact ih
  | case3 offset c rest starts ih =>
    refine List.pairwise_cons.mpr ⟨fun second later => ?_, ih⟩
    obtain ⟨bytes, rfl, stands⟩ := mem_occurrencesFrom later
    have behind := byteSize_le_of_standsAt (List.isPrefixOf_iff_prefix.mp starts) stands
    omega
  | case4 offset c rest _ ih => exact ih

theorem mem_occurrences {pattern source : String} {found : Nat}
    (met : found ∈ occurrences pattern source) :
    ∃ before after, source = before ++ pattern ++ after ∧ found = before.utf8ByteSize := by
  obtain ⟨bytes, rfl, before, after, split, rfl, -⟩ := mem_occurrencesFrom met
  refine ⟨String.ofList before, String.ofList after, ?_, Nat.zero_add _⟩
  rw [← String.ofList_toList (s := source), split, String.ofList_append, String.ofList_append,
    String.ofList_toList, String.append_assoc]

theorem occurrences_pairwise (pattern source : String) :
    (occurrences pattern source).Pairwise fun first second =>
      first + pattern.utf8ByteSize ≤ second := by
  have apart := occurrencesFrom_pairwise pattern.toList 0 0 source.toList
  rwa [byteSize, String.ofList_toList] at apart

end Occurrences

namespace Span

/-- The stretch lies on character boundaries of the source and holds the text. -/
def Covers (source : String) (span : Span) (text : String) : Prop :=
  ∃ before after, source = before ++ text ++ after ∧ span.offset = before.utf8ByteSize ∧
    span.length = text.utf8ByteSize

/-- One stretch starts and ends before the other starts. -/
def Precedes (first second : Span) : Prop :=
  first.offset < second.offset ∧ first.offset + first.length ≤ second.offset

end Span

/-- The places of a name inside the occurrences of a pattern around it. -/
theorem spans_of_occurrences (source opening closing name : String) (filled : name ≠ "") :
    let spans := (occurrences (opening ++ name ++ closing) source).map fun found =>
      (⟨found + opening.utf8ByteSize, name.utf8ByteSize⟩ : Span)
    (∀ span ∈ spans, span.Covers source name) ∧ spans.Pairwise Span.Precedes := by
  constructor
  · intro span member
    obtain ⟨found, met, rfl⟩ := List.mem_map.mp member
    obtain ⟨before, after, rfl, rfl⟩ := mem_occurrences met
    refine ⟨before ++ opening, closing ++ after, ?_, ?_, rfl⟩
    · simp only [String.append_assoc]
    · rw [String.utf8ByteSize_append]
  · refine List.pairwise_map.mpr ((occurrences_pairwise _ source).imp fun apart => ?_)
    have long : name.utf8ByteSize ≠ 0 := fun empty =>
      filled (String.utf8ByteSize_eq_zero_iff.mp empty)
    rw [String.utf8ByteSize_append, String.utf8ByteSize_append] at apart
    exact ⟨by dsimp only; omega, by dsimp only; omega⟩

theorem nameSpans_spec (source name : String) :
    (∀ span ∈ nameSpans source name, span.Covers source name) ∧
      (nameSpans source name).Pairwise Span.Precedes := by
  rw [nameSpans]
  split
  · exact ⟨nofun, .nil⟩
  · rename_i filled
    dsimp only
    -- the fixed numbers are the sizes of what opens the two patterns
    split
    · exact spans_of_occurrences source "\"" "\"" name filled
    · exact spans_of_occurrences source "name = \"" "\"" name filled

namespace Locator

variable {locator : Locator} {name : String} {span : Span}

theorem spans_covers (member : span ∈ locator.spans name) : span.Covers locator.source name :=
  (nameSpans_spec locator.source name).1 span (List.mem_of_mem_filter member)

theorem anchor_le_of_mem_spans (member : span ∈ locator.spans name) :
    locator.anchor ≤ span.offset := by
  simpa using List.of_mem_filter member

theorem spans_pairwise (locator : Locator) (name : String) :
    (locator.spans name).Pairwise Span.Precedes :=
  (nameSpans_spec locator.source name).2.filter _

theorem mem_spans_of_span? (found : locator.span? name = some span) : span ∈ locator.spans name :=
  List.mem_of_mem_head? found

/-- Of two spans of a name the one with the smaller index comes first. -/
theorem precedes_of_lt {first second : Span} {i j : Nat} (less : i < j)
    (before : (locator.spans name)[i]? = some first)
    (after : (locator.spans name)[j]? = some second) : first.Precedes second := by
  obtain ⟨_, rfl⟩ := List.getElem?_eq_some_iff.mp before
  obtain ⟨_, rfl⟩ := List.getElem?_eq_some_iff.mp after
  exact List.pairwise_iff_getElem.mp (locator.spans_pairwise name) i j _ _ less

end Locator

end EntityMapper
