import EntityMapper.Text.Segments
import Mathlib.Data.List.Basic
import Mathlib.Data.List.TakeWhile

/-!
# Cutting text

Text that goes on behind a separator is cut into the segments on both sides of it
(`segments_append_cons`), so the last segment is what stands behind the last separator
(`append_afterLast`), and what stands before the first one is known from the text around it
(`cut_at_first`). Segments tell the text that they are cut from (`segments_injective`).
-/
namespace EntityMapper.Text

theorem mem_intercalate {α : Type} {separator : List α} {parts : List (List α)} {a : α}
    (member : a ∈ List.intercalate separator parts) : a ∈ separator ∨ ∃ part ∈ parts, a ∈ part := by
  induction parts with
  | nil => cases member
  | cons part rest ih =>
    cases rest with
    | nil => exact .inr ⟨part, List.mem_cons_self, by simpa [List.intercalate] using member⟩
    | cons next rest =>
      rw [List.intercalate_cons_cons, List.mem_append, List.mem_append] at member
      rcases member with (inPart | between) | later
      · exact .inr ⟨part, List.mem_cons_self, inPart⟩
      · exact .inl between
      · exact (ih later).imp_right fun ⟨other, inRest, inOther⟩ =>
          ⟨other, List.mem_cons_of_mem _ inRest, inOther⟩

theorem mem_intercalate_of_mem {α : Type} (separator : List α) {parts : List (List α)}
    {part : List α} {a : α} (listed : part ∈ parts) (member : a ∈ part) :
    a ∈ List.intercalate separator parts := by
  induction parts with
  | nil => cases listed
  | cons first rest ih =>
    cases rest with
    | nil =>
      rw [List.mem_singleton] at listed
      simpa [List.intercalate, listed] using member
    | cons next rest =>
      rw [List.intercalate_cons_cons, List.mem_append]
      rcases List.mem_cons.mp listed with rfl | later
      · exact .inl (List.mem_append_left _ member)
      · exact .inr (ih later)

variable {separator : Char}

theorem segments_of_not_mem {s : String} (uncut : separator ∉ s.toList) :
    segments separator s = [s] := by
  have single : s.toList.splitOn separator = [s.toList] := by
    refine List.splitOnP_eq_singleton fun c member => ?_
    exact beq_false_of_ne fun same => uncut (same ▸ member)
  rw [segments, single, List.map_singleton, String.ofList_toList]

theorem segments_append_cons (before after : List Char) :
    segments separator (String.ofList (before ++ separator :: after)) =
      segments separator (String.ofList before) ++ segments separator (String.ofList after) := by
  have cut := List.splitOnP_append_cons (p := (· == separator)) before after (beq_self_eq_true _)
  simp only [segments, String.toList_ofList, ← List.map_append]
  exact congrArg _ cut

/-- The first part is cut off with its separator, and what stands behind is cut on its own. -/
theorem segments_part {part : String} (uncut : separator ∉ part.toList) (after : String) :
    segments separator (part ++ String.singleton separator ++ after) =
      part :: segments separator after := by
  have cut : part ++ String.singleton separator ++ after =
      String.ofList (part.toList ++ separator :: after.toList) := by
    apply String.toList_injective
    simp
  rw [cut, segments_append_cons, String.ofList_toList, String.ofList_toList, segments_of_not_mem uncut]
  rfl

theorem segments_line {line : String} (inLine : '\n' ∉ line.toList) (after : String) :
    segments '\n' (line ++ "\n" ++ after) = line :: segments '\n' after :=
  segments_part inLine after

theorem segments_word {word : String} (unbroken : ' ' ∉ word.toList) (after : String) :
    segments ' ' (word ++ " " ++ after) = word :: segments ' ' after :=
  segments_part unbroken after

/-- A stretch without separators stands in front of the first segment. -/
theorem segments_append_of_not_mem {before : String} (uncut : separator ∉ before.toList)
    (s : String) : ∃ first rest, segments separator s = first :: rest ∧
      segments separator (before ++ s) = (before ++ first) :: rest := by
  by_cases cut : separator ∈ s.toList
  · obtain ⟨first, after, split, fresh⟩ := List.eq_append_cons_of_mem cut
    have whole : s = String.ofList (first ++ separator :: after) := by
      rw [← split, String.ofList_toList]
    have joined : before ++ s = String.ofList ((before.toList ++ first) ++ separator :: after) := by
      apply String.toList_injective
      simp [split]
    have ahead : segments separator (String.ofList first) = [String.ofList first] :=
      segments_of_not_mem (by simpa using fresh)
    have behind : segments separator (String.ofList (before.toList ++ first)) =
        [before ++ String.ofList first] := by
      rw [String.ofList_append, String.ofList_toList]
      exact segments_of_not_mem (by simp [uncut, fresh])
    refine ⟨String.ofList first, segments separator (String.ofList after), ?_, ?_⟩
    · rw [whole, segments_append_cons, ahead, List.singleton_append]
    · rw [joined, segments_append_cons, behind, List.singleton_append]
  · refine ⟨s, [], segments_of_not_mem cut, segments_of_not_mem ?_⟩
    simp [uncut, cut]

/-- A character of a text is the separator or in a segment. -/
theorem mem_segment (separator : Char) {s : String} {c : Char} (member : c ∈ s.toList) :
    c = separator ∨ ∃ part ∈ segments separator s, c ∈ part.toList := by
  have whole : [separator].intercalate (s.toList.splitOn separator) = s.toList :=
    List.intercalate_splitOn separator
  rw [← whole] at member
  rcases mem_intercalate member with mark | ⟨part, inParts, inPart⟩
  · exact .inl (List.mem_singleton.mp mark)
  · exact .inr ⟨String.ofList part, List.mem_map_of_mem inParts, by simpa using inPart⟩

/-- A segment holds nothing but what the text does. -/
theorem mem_of_mem_segment {s part : String} {c : Char} (cut : part ∈ segments separator s)
    (member : c ∈ part.toList) : c ∈ s.toList := by
  obtain ⟨chars, listed, rfl⟩ := List.mem_map.mp cut
  have whole : [separator].intercalate (s.toList.splitOn separator) = s.toList :=
    List.intercalate_splitOn separator
  rw [← whole]
  exact mem_intercalate_of_mem [separator] listed (by simpa using member)

/-- Texts with the same segments are the same. -/
theorem segments_injective : Function.Injective (segments separator) := by
  intro a b same
  have parts : a.toList.splitOn separator = b.toList.splitOn separator :=
    List.map_injective_iff.mpr (fun _ _ => String.ofList_injective) same
  apply String.toList_injective
  calc a.toList
      = [separator].intercalate (a.toList.splitOn separator) :=
        (List.intercalate_splitOn separator).symm
    _ = [separator].intercalate (b.toList.splitOn separator) := by rw [parts]
    _ = b.toList := List.intercalate_splitOn separator

/-- The last separator with what stands on both its sides. -/
theorem append_afterLast {cs : List Char} (member : separator ∈ cs) :
    beforeLast separator cs ++ separator :: afterLast separator cs = cs ∧
      separator ∉ afterLast separator cs := by
  obtain ⟨after, before, split, fresh⟩ := List.eq_append_cons_of_mem (List.mem_reverse.mpr member)
  have passed : ∀ c ∈ after, (c != separator) = true := fun c inAfter =>
    bne_iff_ne.mpr fun same => fresh (same ▸ inAfter)
  have cut : cs = before.reverse ++ separator :: after.reverse := by
    rw [← List.reverse_reverse cs, split]
    simp
  have taken : after.takeWhile (· != separator) = after := List.takeWhile_eq_self_iff.mpr passed
  have dropped : after.dropWhile (· != separator) = [] := List.dropWhile_eq_nil_iff.mpr passed
  simp [beforeLast, afterLast, List.takeWhile_append, List.dropWhile_append, taken, dropped,
    fresh, cut]

theorem afterLast_of_not_mem {cs : List Char} (uncut : separator ∉ cs) :
    afterLast separator cs = cs ∧ beforeLast separator cs = [] := by
  have passed : ∀ c ∈ cs.reverse, (c != separator) = true := fun c member =>
    bne_iff_ne.mpr fun same => uncut (same ▸ List.mem_reverse.mp member)
  rw [afterLast, beforeLast, List.takeWhile_eq_self_iff.mpr passed,
    List.dropWhile_eq_nil_iff.mpr passed]
  simp

theorem beforeFirst_of_not_mem {cs : List Char} (uncut : separator ∉ cs) :
    beforeFirst separator cs = cs :=
  List.takeWhile_eq_self_iff.mpr fun _ member =>
    bne_iff_ne.mpr fun same => uncut (same ▸ member)

theorem beforeFirst_append (separator : Char) (before after : List Char) :
    beforeFirst separator (before ++ after) =
      if separator ∈ before then beforeFirst separator before
      else before ++ beforeFirst separator after := by
  by_cases member : separator ∈ before
  · have stops : before.takeWhile (· != separator) ≠ before := by
      intro whole
      simpa using List.takeWhile_eq_self_iff.mp whole separator member
    rw [if_pos member, beforeFirst, beforeFirst, List.takeWhile_append, if_neg]
    intro whole
    exact stops ((List.takeWhile_prefix _).eq_of_length whole)
  · have passed : before.takeWhile (· != separator) = before := beforeFirst_of_not_mem member
    rw [if_neg member, beforeFirst, beforeFirst, List.takeWhile_append, passed, if_pos rfl]

/-- What stands from the first separator on; nothing when there is none. -/
def fromFirst (separator : Char) (cs : List Char) : List Char :=
  cs.dropWhile (· != separator)

theorem beforeFirst_append_fromFirst (separator : Char) (cs : List Char) :
    beforeFirst separator cs ++ fromFirst separator cs = cs :=
  List.takeWhile_append_dropWhile

/-- A text is cut where the first separator in it stands. -/
theorem cut_at_first {base tail : List Char} (fresh : separator ∉ base)
    (opens : tail = [] ∨ ∃ rest, tail = separator :: rest) :
    beforeFirst separator (base ++ tail) = base ∧ fromFirst separator (base ++ tail) = tail := by
  have nothing : beforeFirst separator tail = [] := by
    rcases opens with rfl | ⟨rest, rfl⟩
    · rfl
    · exact List.takeWhile_cons_of_neg (by simp)
  have cut : beforeFirst separator (base ++ tail) = base := by
    rw [beforeFirst_append, if_neg fresh, nothing, List.append_nil]
  have whole := beforeFirst_append_fromFirst separator (base ++ tail)
  rw [cut] at whole
  exact ⟨cut, List.append_cancel_left whole⟩

theorem append_of_afterStart? {start cs rest : List Char}
    (found : afterStart? start cs = some rest) : start ++ rest = cs := by
  fun_induction afterStart? start cs with
  | case1 cs => exact (Option.some.inj found).symm
  | case2 => cases found
  | case3 c start cs ih => rw [List.cons_append, ih found]
  | case4 => cases found

theorem afterStart?_append (start rest : List Char) :
    afterStart? start (start ++ rest) = some rest := by
  induction start with
  | nil => rfl
  | cons c start ih => simp [afterStart?, ih]

end EntityMapper.Text
