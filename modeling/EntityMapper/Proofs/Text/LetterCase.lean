import EntityMapper.Proofs.Text.CaseMapping

/-!
# Letters that case mappings leave

Mapping to upper case leaves no small ASCII letter and mapping to lower case no ASCII capital, also
where other characters map to ASCII ones (`isLowercase_of_mem_upperCase`,
`isUppercase_of_mem_lowerCase`). ASCII text of one case can be told from its upper case: without
capitals it comes back in lower case (`asciiLower_asciiUpper`), without small letters it is its own
upper case (`asciiUpper_eq_self`).
-/
namespace EntityMapper.Text

def IsAscii (s : String) : Prop :=
  ∀ c ∈ s.toList, c.toNat < asciiLimit

def NoCapitals (s : String) : Prop :=
  ∀ c ∈ s.toList, isUppercase c = false

def NoSmall (s : String) : Prop :=
  ∀ c ∈ s.toList, isLowercase c = false

-- By the list: characters are also a finite type, whose instance would try each of them.
instance (s : String) : Decidable (IsAscii s) :=
  List.decidableBAll (fun c : Char => c.toNat < asciiLimit) s.toList

instance (s : String) : Decidable (NoSmall s) :=
  List.decidableBAll (isLowercase · = false) s.toList

/-- What holds of the first 128 characters holds of each ASCII character. -/
theorem forall_ascii {p : Char → Prop} (checked : ∀ code < asciiLimit, p (Char.ofNat code))
    (c : Char) (ascii : c.toNat < asciiLimit) : p c := by
  simpa using checked c.toNat ascii

theorem lt_asciiLimit_of_isAlphanum {c : Char} (plain : c.isAlphanum = true) :
    c.toNat < asciiLimit := by
  have within {last : Char} (below : c.val ≤ last.val) (small : last.toNat < asciiLimit) :
      c.toNat < asciiLimit :=
    Nat.lt_of_le_of_lt below small
  rcases Bool.or_eq_true_iff.mp plain with letter | digit
  · rcases Bool.or_eq_true_iff.mp letter with upper | lower
    · exact within (of_decide_eq_true upper).2 (by decide)
    · exact within (of_decide_eq_true (Bool.and_eq_true_iff.mp lower).2) (by decide)
  · exact within (of_decide_eq_true (Bool.and_eq_true_iff.mp digit).2) (by decide)

/-- No character is lost. -/
theorem mapCase_ne_nil {expansions : List (Nat × List Nat)} (shifts : List CodeShift)
    (filled : ∀ entry ∈ expansions, entry.2 ≠ []) (c : Char) : mapCase expansions shifts c ≠ [] := by
  rcases mapCase_cases expansions shifts c with
    ⟨codes, listed, expanded⟩ | ⟨_, _, _, shifted⟩ | self
  · have kept := filled _ listed
    rw [expanded]
    simpa using kept
  · simp [shifted]
  · simp [self]

theorem isLowercase_of_mem_upperCase {c d : Char} (member : d ∈ upperCase c)
    (ascii : d.toNat < asciiLimit) : isLowercase d = false := by
  by_contra small
  rw [Bool.not_eq_false] at small
  have self := upperCase_eq_self member small
  obtain rfl : d = c := List.mem_singleton.mp (self ▸ member)
  exact forall_ascii (p := fun c => isLowercase c = true → upperCase c ≠ [c]) (by decide) d
    ascii small self

theorem isUppercase_of_mem_lowerCase {c d : Char} (member : d ∈ lowerCase c)
    (ascii : d.toNat < asciiLimit) : isUppercase d = false := by
  by_contra capital
  rw [Bool.not_eq_false] at capital
  have self := lowerCase_eq_self member capital
  obtain rfl : d = c := List.mem_singleton.mp (self ▸ member)
  exact forall_ascii (p := fun c => isUppercase c = true → lowerCase c ≠ [c]) (by decide) d
    ascii capital self

/-- The codes that upper case leads to from beyond ASCII. -/
def upperTargets : List Nat :=
  upperExpansions.flatMap (·.2) ++ upperShifts.flatMap fun shift =>
    shift.range.codes.map fun code : Nat => (code + shift.offset).toNat

theorem isAlpha_of_mem_upperTargets : ∀ code ∈ upperTargets,
    (Char.ofNat code).toNat < asciiLimit → (Char.ofNat code).isAlpha = true := by
  decide +kernel

/-- Upper case makes letters of ASCII only: any other ASCII character it holds was there before. -/
theorem eq_of_mem_upperCase {c d : Char} (mapped : d ∈ upperCase c) (ascii : d.toNat < asciiLimit)
    (other : d.isAlpha = false) : d = c := by
  rw [upperCase] at mapped
  split at mapped
  · rename_i small
    obtain rfl := List.mem_singleton.mp mapped
    exact forall_ascii (p := fun c => c.toUpper.isAlpha = false → c.toUpper = c) (by decide) c small other
  · have target {code : Nat} (member : code ∈ upperTargets) (same : d = Char.ofNat code) : d = c := by
      have letter := isAlpha_of_mem_upperTargets code member (same ▸ ascii)
      rw [← same, other] at letter
      cases letter
    rcases mapCase_cases upperExpansions upperShifts c with
      ⟨codes, listed, expanded⟩ | ⟨shift, inShifts, inside, shifted⟩ | self
    · obtain ⟨code, inCodes, same⟩ := List.mem_map.mp (expanded ▸ mapped)
      refine target (List.mem_append_left _ ?_) same.symm
      exact List.mem_flatMap.mpr ⟨_, listed, inCodes⟩
    · refine target (List.mem_append_right _ ?_) (List.mem_singleton.mp (shifted ▸ mapped))
      exact List.mem_flatMap.mpr ⟨shift, inShifts, List.mem_map.mpr ⟨_, inside, rfl⟩⟩
    · exact List.mem_singleton.mp (self ▸ mapped)

/-- The upper case of ASCII text is that of its letters. -/
theorem upper_eq_asciiUpper {s : String} (ascii : IsAscii s) : upper s = asciiUpper s := by
  rw [upper, asciiUpper, List.map_eq_flatMap]
  congr 1
  refine List.flatMap_congr fun c member => ?_
  rw [upperCase, if_pos (ascii c member)]

theorem ofList_map_eq {s : String} {f : Char → Char} (fixed : ∀ c ∈ s.toList, f c = c) :
    String.ofList (s.toList.map f) = s := by
  rw [List.map_congr_left fixed, List.map_id', String.ofList_toList]

/-- Lower case undoes upper case where there are no capitals. -/
theorem asciiLower_asciiUpper {s : String} (ascii : IsAscii s) (small : NoCapitals s) :
    asciiLower (asciiUpper s) = s := by
  rw [asciiLower, asciiUpper, String.toList_ofList, List.map_map]
  refine ofList_map_eq fun c member => ?_
  exact forall_ascii (p := fun c => isUppercase c = false → c.toUpper.toLower = c)
    (by decide) c (ascii c member) (small c member)

/-- ASCII text without small letters is its own upper case. -/
theorem asciiUpper_eq_self {s : String} (ascii : IsAscii s) (capital : NoSmall s) :
    asciiUpper s = s :=
  ofList_map_eq fun c member =>
    forall_ascii (p := fun c => isLowercase c = false → c.toUpper = c) (by decide) c
      (ascii c member) (capital c member)

end EntityMapper.Text
