import EntityMapper.Proofs.Manifest.Places

/-!
# Names behind an anchor

A search from the left meets every place of a pattern or one that overlaps it from before
(`exists_met`). Two assignments of a name overlap only behind the quoted name of the first
(`OccursAt.assignment_overlap`). So where no place of the name reaches across the anchor into another, a
name that stands behind the anchor is found unless it is assigned in front of the anchor only
(`anchored_lookup`): the search for assignments looks at the whole text, and the anchor is applied to what
it finds.
-/
namespace EntityMapper

open Text (byteSize byteSize_cons byteSize_append byteSize_le_of_starts)

/-- The pattern stands in the source behind so many bytes. -/
def OccursAt (pattern source : String) (offset : Nat) : Prop :=
  ∃ before after, source = before ++ pattern ++ after ∧ offset = before.utf8ByteSize

/-- The name as a string or as a quoted key. -/
def quotedName (name : String) : String :=
  "\"" ++ name ++ "\""

def assignment (name : String) : String :=
  "name = \"" ++ name ++ "\""

theorem Text.length_le_byteSize (chars : List Char) : chars.length ≤ byteSize chars := by
  induction chars with
  | nil => exact Nat.zero_le _
  | cons c rest ih =>
    have size := c.utf8Size_pos
    rw [List.length_cons, byteSize_cons]
    omega

theorem Text.byteSize_pos {chars : List Char} (filled : chars ≠ []) : 0 < byteSize chars :=
  Nat.lt_of_lt_of_le (List.length_pos_iff.mpr filled) (length_le_byteSize chars)

theorem Text.byteSize_toList (s : String) : byteSize s.toList = s.utf8ByteSize := by
  rw [byteSize, String.ofList_toList]

open Text (byteSize_toList length_le_byteSize)

/-- Every place is met, or a place is met before it that reaches into it. -/
theorem exists_met_occurrencesFrom {pattern : List Char} (filled : pattern ≠ []) (offset skip : Nat)
    (before after : List Char) (passed : skip ≤ before.length) :
    ∃ met ∈ occurrencesFrom pattern offset skip (before ++ (pattern ++ after)),
      met ≤ offset + byteSize before ∧ offset + byteSize before < met + byteSize pattern := by
  induction before generalizing offset skip with
  | nil =>
    obtain rfl := Nat.le_zero.mp passed
    have size := Text.byteSize_pos filled
    obtain ⟨first, tail, rfl⟩ := List.exists_cons_of_ne_nil filled
    have starts : (first :: tail).isPrefixOf (first :: (tail ++ after)) = true := by simp
    refine ⟨offset, ?_, Nat.le_add_right _ _, Nat.add_lt_add_left size offset⟩
    rw [List.nil_append, List.cons_append, occurrencesFrom, if_pos starts]
    exact List.mem_cons_self
  | cons c before ih =>
    rw [byteSize_cons, ← Nat.add_assoc, List.cons_append]
    cases skip with
    | succ skip =>
      rw [occurrencesFrom]
      exact ih (offset + c.utf8Size) skip (Nat.le_of_succ_le_succ passed)
    | zero =>
      by_cases starts : pattern.isPrefixOf (c :: (before ++ (pattern ++ after))) = true
      · rw [occurrencesFrom, if_pos starts]
        by_cases behind : pattern.length - 1 ≤ before.length
        · obtain ⟨met, member, reach⟩ := ih (offset + c.utf8Size) (pattern.length - 1) behind
          exact ⟨met, List.mem_cons_of_mem _ member, reach⟩
        · -- the place begins inside of the one that is met here
          have inside : c :: before <+: pattern :=
            List.prefix_of_prefix_length_le (List.prefix_append (c :: before) _)
              (List.isPrefixOf_iff_prefix.mp starts) (by rw [List.length_cons]; omega)
          obtain ⟨rest, whole⟩ := inside
          have more : rest ≠ [] := by
            rintro rfl
            rw [List.append_nil] at whole
            rw [← whole, List.length_cons] at behind
            omega
          have size := Text.byteSize_pos more
          refine ⟨offset, List.mem_cons_self, by omega, ?_⟩
          rw [← whole, byteSize_append, byteSize_cons]
          omega
      · rw [occurrencesFrom, if_neg starts]
        exact ih (offset + c.utf8Size) 0 (Nat.zero_le _)

theorem exists_met {pattern source : String} (filled : pattern ≠ "") {offset : Nat}
    (occurs : OccursAt pattern source offset) :
    ∃ met ∈ occurrences pattern source,
      met ≤ offset ∧ offset < met + pattern.utf8ByteSize := by
  obtain ⟨before, after, rfl, rfl⟩ := occurs
  have chars : pattern.toList ≠ [] := fun empty => filled (String.toList_eq_nil_iff.mp empty)
  obtain ⟨met, member, reach⟩ :=
    exists_met_occurrencesFrom chars 0 0 before.toList after.toList (Nat.zero_le _)
  refine ⟨met, ?_, ?_⟩
  · rwa [occurrences, String.toList_append, String.toList_append, List.append_assoc]
  · simpa only [byteSize, String.ofList_toList, Nat.zero_add] using reach

/-- Where a pattern stands twice and the places overlap, what they share begins the pattern and ends
it. -/
theorem exists_shared {pattern ahead rest ahead' rest' : List Char}
    (same : ahead ++ (pattern ++ rest) = ahead' ++ (pattern ++ rest'))
    (later : byteSize ahead < byteSize ahead')
    (overlap : byteSize ahead' < byteSize ahead + byteSize pattern) :
    ∃ skipped shared, ahead' = ahead ++ skipped ∧ pattern = skipped ++ shared ∧ shared ≠ [] ∧
      shared <+: pattern := by
  have longer : ahead.length ≤ ahead'.length := by
    by_contra shorter
    have starts : ahead' <+: ahead := List.prefix_of_prefix_length_le
      (same ▸ List.prefix_append ahead' _) (List.prefix_append ahead _) (by omega)
    exact absurd (byteSize_le_of_starts starts) (by omega)
  obtain ⟨skipped, rfl⟩ := List.prefix_of_prefix_length_le (List.prefix_append ahead _)
    (same ▸ List.prefix_append ahead' _) longer
  rw [List.append_assoc] at same
  have tails := List.append_cancel_left same
  rw [byteSize_append] at overlap
  have inside : skipped.length < pattern.length := by
    by_contra outside
    have starts : pattern <+: skipped := List.prefix_of_prefix_length_le
      (List.prefix_append pattern rest) (tails ▸ List.prefix_append skipped _) (by omega)
    exact absurd (byteSize_le_of_starts starts) (by omega)
  obtain ⟨shared, rfl⟩ := List.prefix_of_prefix_length_le (tails ▸ List.prefix_append skipped _)
    (List.prefix_append pattern rest) (Nat.le_of_lt inside)
  rw [List.append_assoc] at tails
  have ends := List.append_cancel_left tails
  refine ⟨skipped, shared, rfl, rfl, ?_, ?_⟩
  · rintro rfl
    simp at inside
  · exact List.prefix_of_prefix_length_le (List.prefix_append shared rest)
      (ends ▸ List.prefix_append _ rest') (by simp)

namespace OccursAt

variable {source name : String} {offset : Nat}

theorem of_met {pattern : String} (met : offset ∈ occurrences pattern source) :
    OccursAt pattern source offset :=
  mem_occurrences met

/-- An assignment holds the quoted name. -/
theorem quotedName (occurs : OccursAt (assignment name) source offset) :
    OccursAt (quotedName name) source (offset + 7) := by
  obtain ⟨before, after, rfl, rfl⟩ := occurs
  have opening : "name = \"" = "name = " ++ "\"" := by decide
  refine ⟨before ++ "name = ", after, ?_, ?_⟩
  · simp only [assignment, EntityMapper.quotedName, opening, String.append_assoc]
  · rw [String.utf8ByteSize_append]
    rfl

/-- What two overlapping assignments share ends in a quote and starts the second one, so it holds all that
stands there in front of the name. -/
theorem assignment_overlap {first second : Nat} (before : OccursAt (assignment name) source first)
    (after : OccursAt (assignment name) source second) (later : first < second)
    (overlap : second < first + (assignment name).utf8ByteSize) :
    second + 8 ≤ first + (assignment name).utf8ByteSize := by
  obtain ⟨ahead, rest, rfl, rfl⟩ := before
  obtain ⟨ahead', rest', same, rfl⟩ := after
  have chars : (assignment name).toList = "name = ".toList ++ '"' :: (name.toList ++ ['"']) := by
    simp [assignment]
  have split := congrArg String.toList same
  simp only [String.toList_append, List.append_assoc] at split
  obtain ⟨skipped, shared, reached, whole, filled, starts⟩ :=
    exists_shared split (by simpa only [byteSize_toList] using later)
      (by simpa only [byteSize_toList] using overlap)
  have quote : '"' ∈ shared := by
    have last : (assignment name).toList.getLast? = some '"' := by
      rw [chars, ← List.cons_append, ← List.append_assoc, List.getLast?_concat]
    rw [whole, List.getLast?_append_of_ne_nil _ filled] at last
    exact List.mem_of_getLast? last
  have long : 8 ≤ shared.length := by
    by_contra short
    have inside : shared <+: "name = ".toList := List.prefix_of_prefix_length_le starts
      (chars ▸ List.prefix_append _ _) (by simp; omega)
    exact absurd (inside.subset quote) (by decide)
  have size := length_le_byteSize shared
  have sizes := congrArg byteSize reached
  have pattern := congrArg byteSize whole
  simp only [byteSize_append, byteSize_toList] at sizes pattern
  omega

end OccursAt

namespace Locator

variable {locator : Locator} {name : String}

/-- No place of the quoted name in front of the anchor reaches into one from the anchor on. -/
def AnchoredApart (locator : Locator) (name : String) : Prop :=
  ∀ ahead behind, OccursAt (quotedName name) locator.source ahead →
    OccursAt (quotedName name) locator.source behind →
      ahead + 1 < locator.anchor → locator.anchor ≤ behind + 1 →
        ahead + (quotedName name).utf8ByteSize ≤ behind

theorem span?_isSome_iff (locator : Locator) (name : String) :
    (locator.span? name).isSome = true ↔
      ∃ span ∈ nameSpans locator.source name, locator.anchor ≤ span.offset := by
  rw [span?, spans, List.isSome_head?]
  simp [List.filter_eq_nil_iff]

/-- A name that is assigned somewhere is found from the anchor on if it is assigned there. -/
theorem span?_isSome_of_assigned (apart : locator.AnchoredApart name) (filled : name ≠ "")
    (assigned : ∃ offset, OccursAt (assignment name) locator.source offset) :
    (locator.span? name).isSome = true ↔
      ∃ offset, OccursAt (assignment name) locator.source offset ∧ locator.anchor ≤ offset + 8 := by
  have pattern : assignment name ≠ "" := by simp [assignment]
  have spans : nameSpans locator.source name =
      (occurrences (assignment name) locator.source).map fun met => ⟨met + 8, name.utf8ByteSize⟩ := by
    obtain ⟨offset, occurs⟩ := assigned
    obtain ⟨met, member, _⟩ := exists_met pattern occurs
    have some : (occurrences (assignment name) locator.source).isEmpty = false :=
      List.isEmpty_eq_false_iff.mpr (List.ne_nil_of_mem member)
    rw [nameSpans, if_neg filled]
    exact if_neg (Bool.eq_false_iff.mp some)
  rw [span?_isSome_iff, spans]
  constructor
  · rintro ⟨span, member, reached⟩
    obtain ⟨met, found, rfl⟩ := List.mem_map.mp member
    exact ⟨met, .of_met found, reached⟩
  · rintro ⟨offset, occurs, reached⟩
    obtain ⟨met, found, before, overlap⟩ := exists_met pattern occurs
    have size : (assignment name).utf8ByteSize = (quotedName name).utf8ByteSize + 7 := by
      have opening : "name = \"".utf8ByteSize = "\"".utf8ByteSize + 7 := rfl
      simp only [assignment, quotedName, String.utf8ByteSize_append, opening]
      omega
    refine ⟨_, List.mem_map_of_mem found, show locator.anchor ≤ met + 8 from ?_⟩
    rcases Nat.eq_or_lt_of_le before with rfl | later
    · exact reached
    · have shared := OccursAt.assignment_overlap (.of_met found) occurs later overlap
      by_contra ahead
      have clear := apart _ _ (OccursAt.quotedName (.of_met found)) occurs.quotedName (by omega)
        (by omega)
      omega

/-- A name that is assigned nowhere is found from the anchor on if it is quoted there. -/
theorem span?_isSome_of_unassigned (apart : locator.AnchoredApart name) (filled : name ≠ "")
    (unassigned : ¬ ∃ offset, OccursAt (assignment name) locator.source offset)
    (stands : ∃ offset, OccursAt (quotedName name) locator.source offset ∧
      locator.anchor ≤ offset + 1) : (locator.span? name).isSome = true := by
  have none : occurrences (assignment name) locator.source = [] :=
    List.eq_nil_iff_forall_not_mem.mpr fun met member => unassigned ⟨met, .of_met member⟩
  have spans : nameSpans locator.source name =
      (occurrences (quotedName name) locator.source).map fun met => ⟨met + 1, name.utf8ByteSize⟩ := by
    rw [nameSpans, if_neg filled]
    exact if_pos (List.isEmpty_iff.mpr none)
  obtain ⟨offset, occurs, reached⟩ := stands
  obtain ⟨met, found, before, overlap⟩ := exists_met (by simp [quotedName]) occurs
  rw [span?_isSome_iff, spans]
  refine ⟨_, List.mem_map_of_mem found, show locator.anchor ≤ met + 1 from ?_⟩
  by_contra ahead
  have clear := apart met offset (.of_met found) occurs (by omega) reached
  omega

end Locator

/-- A name that stands between quotes from the anchor on is found there, unless it is assigned in front of
the anchor only; then the assignments hide it. This is where no place of the name in front of the anchor
reaches into one from the anchor on. -/
theorem anchored_lookup (locator : Locator) {name : String} (filled : name ≠ "")
    (apart : locator.AnchoredApart name)
    (stands : ∃ offset, OccursAt (quotedName name) locator.source offset ∧
      locator.anchor ≤ offset + 1) :
    ((locator.span? name).isSome = true ↔
      ((∃ offset, OccursAt (assignment name) locator.source offset) →
        ∃ offset, OccursAt (assignment name) locator.source offset ∧ locator.anchor ≤ offset + 8)) ∧
      ∀ span, locator.span? name = some span →
        span.Covers locator.source name ∧ locator.anchor ≤ span.offset := by
  refine ⟨?_, fun span found => ?_⟩
  · by_cases assigned : ∃ offset, OccursAt (assignment name) locator.source offset
    · rw [Locator.span?_isSome_of_assigned apart filled assigned]
      exact ⟨fun behind _ => behind, fun behind => behind assigned⟩
    · refine ⟨fun _ here => absurd here assigned, fun _ => ?_⟩
      exact Locator.span?_isSome_of_unassigned apart filled assigned stands
  · have member := Locator.mem_spans_of_span? found
    exact ⟨Locator.spans_covers member, Locator.anchor_le_of_mem_spans member⟩

/-- The field of the class around the anchor is found, and not that of the class before. -/
theorem anchored_field_found :
    let source := "name = \"A\"\nfields = [\x7bname = \"id\"\x7d]\nname = \"B\"\nfields = [\x7bname = \"id\"\x7d]\n"
    let locator := (⟨source, "rowbind.toml", [], 0⟩ : Locator).anchoredAt "B"
    "id" ≠ "" ∧ locator.AnchoredApart "id" ∧
      (∃ offset, OccursAt (quotedName "id") source offset ∧ locator.anchor ≤ offset + 1) ∧
      (locator.span? "id").isSome = true := by
  intro source locator
  have anchor : locator.anchor = 44 := by decide +kernel
  have quoted : occurrences (quotedName "id") source = [29, 65] := by decide +kernel
  have assigned : occurrences (assignment "id") source = [22, 58] := by decide +kernel
  have size : (quotedName "id").utf8ByteSize = 4 := by decide
  have placed (offset : Nat) (occurs : OccursAt (quotedName "id") source offset) :
      29 ≤ offset ∧ offset < 33 ∨ 65 ≤ offset := by
    obtain ⟨met, found, before, overlap⟩ := exists_met (by decide) occurs
    have listed : met = 29 ∨ met = 65 := by simpa [quoted] using found
    omega
  have apart : locator.AnchoredApart "id" := by
    intro ahead behind first second before after
    have place := placed ahead first
    have next := placed behind second
    omega
  have stands : ∃ offset, OccursAt (quotedName "id") source offset ∧ locator.anchor ≤ offset + 1 :=
    ⟨65, .of_met (by simp [quoted]), by omega⟩
  refine ⟨by decide, apart, stands, (anchored_lookup locator (by decide) apart stands).1.mpr ?_⟩
  exact fun _ => ⟨58, .of_met (show 58 ∈ occurrences _ source by simp [assigned]), by omega⟩

/-- The class around the anchor overrides a field that the class before it declares: the key of the
override stands behind the anchor, but is not found. -/
theorem overridden_field_missed :
    let source := "name = \"A\"\nfields = [\x7bname = \"id\"\x7d]\nname = \"B\"\n[classes.overrides.\"id\"]\n"
    let locator := (⟨source, "rowbind.toml", [], 0⟩ : Locator).anchoredAt "B"
    (∃ offset, OccursAt (quotedName "id") source offset ∧ locator.anchor ≤ offset + 1) ∧
      locator.span? "id" = none := by
  intro source locator
  have quoted : occurrences (quotedName "id") source = [29, 66] := by decide +kernel
  exact ⟨⟨66, .of_met (by simp [quoted]), by decide +kernel⟩, by decide +kernel⟩

end EntityMapper
