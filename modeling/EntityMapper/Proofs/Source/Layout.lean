import EntityMapper.Proofs.Source.Lines
import EntityMapper.Proofs.Text.Segments
import EntityMapper.Text.Character
import Mathlib.Data.List.Chain

/-!
# Well laid out text

Text is laid out by its braces if each line stands four blanks to the right for every brace that is open
around it, ends in no blank, and no brace closes what is not open (`LaidOut`). That is said of the lines
alone, whoever has written them. Pieces lay out lines if they write just these, from one level to another
(`Lays`). Runs of pieces that do so can be joined (`Lays.append`), and a line of tokens does so if it has
no braces, one at its end, or is a closing brace (`Lays.plain`, `Lays.opening`, `Lays.closing`).
-/
namespace EntityMapper.Source

/-- The braces that are open behind some characters; none if one closes what is not open. -/
def nesting? (depth : Nat) : List Char → Option Nat
  | [] => some depth
  | c :: rest =>
    if c = '\x7b' then nesting? (depth + 1) rest
    else if c = '\x7d' then if depth = 0 then none else nesting? (depth - 1) rest
    else nesting? depth rest

/-- A line is empty, or has four blanks for each brace that is open around it and then text without blanks
at its ends. A line that begins by closing a brace is not inside of it. -/
def Indents (depth : Nat) (line : String) : Prop :=
  let content := line.toList.dropWhile (· == ' ')
  line = "" ∨
    line.toList = List.replicate (4 * if content.head? = some '\x7d' then depth - 1 else depth) ' ' ++
        content ∧
      content.head?.any (!Text.isBlank ·) = true ∧ content.getLast?.any (!Text.isBlank ·) = true

instance (depth : Nat) (line : String) : Decidable (Indents depth line) :=
  inferInstanceAs (Decidable (_ ∨ _))

/-- The lines are indented by the braces around them, which are so many at the start and at the end. -/
def LaidOut : (depth : Nat) → List String → (behind : Nat) → Prop
  | depth, [], behind => depth = behind
  | depth, line :: rest, behind =>
    Indents depth line ∧ ∃ between, nesting? depth line.toList = some between ∧
      LaidOut between rest behind

instance LaidOut.decidable : (depth : Nat) → (lines : List String) → (behind : Nat) →
    Decidable (LaidOut depth lines behind)
  | depth, [], behind => inferInstanceAs (Decidable (depth = behind))
  | depth, line :: rest, behind =>
    match nested : nesting? depth line.toList with
    | none => isFalse fun ⟨_, _, found, _⟩ => by simp [nested] at found
    | some between =>
      have := LaidOut.decidable between rest behind
      decidable_of_iff (Indents depth line ∧ LaidOut between rest behind) (by simp [LaidOut, nested])

/-- Lines with their ends. -/
def unlines (lines : List String) : String :=
  String.join (lines.map (· ++ "\n"))

theorem nesting?_append (depth : Nat) (first second : List Char) :
    nesting? depth (first ++ second) = (nesting? depth first).bind (nesting? · second) := by
  induction first generalizing depth with
  | nil => rfl
  | cons c rest ih =>
    rw [List.cons_append, nesting?, nesting?]
    split
    · exact ih (depth + 1)
    · split
      · split
        · rfl
        · exact ih (depth - 1)
      · exact ih depth

theorem LaidOut.append {depth between behind : Nat} {first second : List String}
    (before : LaidOut depth first between) (after : LaidOut between second behind) :
    LaidOut depth (first ++ second) behind := by
  induction first generalizing depth with
  | nil =>
    cases (before : depth = between)
    exact after
  | cons line rest ih =>
    obtain ⟨indented, next, nested, later⟩ := before
    exact ⟨indented, next, nested, ih later⟩

theorem unlines_append (first second : List String) :
    unlines (first ++ second) = unlines first ++ unlines second := by
  rw [unlines, List.map_append, String.join_append, unlines, unlines]

theorem unlines_cons (line : String) (rest : List String) :
    unlines (line :: rest) = line ++ "\n" ++ unlines rest := by
  rw [unlines, List.map_cons, String.join_cons, unlines]

/-- Cut at its line ends, text shows its lines in front of what follows them. -/
theorem segments_unlines_append {lines : List String} (inLine : ∀ line ∈ lines, '\n' ∉ line.toList)
    (after : String) :
    Text.segments '\n' (unlines lines ++ after) = lines ++ Text.segments '\n' after := by
  induction lines with
  | nil => rw [unlines, List.map_nil, String.join_nil, String.empty_append, List.nil_append]
  | cons line rest ih =>
    obtain ⟨first, others⟩ := List.forall_mem_cons.mp inLine
    rw [unlines_cons, String.append_assoc, Text.segments_line first, ih others, List.cons_append]

theorem segments_unlines {lines : List String} (inLine : ∀ line ∈ lines, '\n' ∉ line.toList) :
    Text.segments '\n' (unlines lines) = lines ++ [""] := by
  have nothing : Text.segments '\n' "" = [""] := Text.segments_of_not_mem (by decide)
  rw [← nothing, ← segments_unlines_append inLine, String.append_empty]

theorem joinWith_unlines (members : List (List String)) :
    Text.joinWith "\n" (members.map unlines) = unlines (List.intercalate [""] members) := by
  induction members with
  | nil => rfl
  | cons first rest ih =>
    cases rest with
    | nil => simp [Text.joinWith]
    | cons second rest =>
      rw [List.intercalate_cons_cons, unlines_append, unlines_append, ← ih]
      rfl

/-- No two empty lines follow each other. -/
def Spaced (lines : List String) : Prop :=
  lines.IsChain fun line next => line ≠ "" ∨ next ≠ ""

theorem spaced_of_not_mem {lines : List String} (filled : "" ∉ lines) : Spaced lines := by
  refine List.Pairwise.isChain (List.pairwise_of_forall_mem_list fun line member _ _ => .inl ?_)
  exact fun empty => filled (empty ▸ member)

theorem spaced_intercalate {members : List (List String)}
    (filled : ∀ member ∈ members, member ≠ [] ∧ "" ∉ member) :
    Spaced (List.intercalate [""] members) ∧ (List.intercalate [""] members).head? ≠ some "" := by
  induction members with
  | nil => exact ⟨.nil, nofun⟩
  | cons first rest ih =>
    obtain ⟨⟨nonempty, inked⟩, others⟩ := List.forall_mem_cons.mp filled
    obtain ⟨line, lines, rfl⟩ := List.exists_cons_of_ne_nil nonempty
    have head : line ≠ "" := fun empty => inked (empty ▸ List.mem_cons_self)
    cases rest with
    | nil => simpa [head] using spaced_of_not_mem inked
    | cons second rest =>
      obtain ⟨spaced, starts⟩ := ih others
      rw [List.intercalate_cons_cons]
      refine ⟨?_, by simpa using head⟩
      refine List.isChain_append.mpr ⟨List.isChain_append.mpr ⟨spaced_of_not_mem inked,
        .singleton "", fun last member _ _ => .inl ?_⟩, spaced, fun _ _ next member => .inr ?_⟩
      · exact fun empty => inked (empty ▸ List.mem_of_mem_getLast? member)
      · exact fun empty => starts (empty ▸ member)

/-- No character of the text changes lines or nesting. -/
def Plain (s : String) : Prop :=
  ∀ c ∈ s.toList, c ≠ '\n' ∧ c ≠ '\x7b' ∧ c ≠ '\x7d'

instance (s : String) : Decidable (Plain s) :=
  List.decidableBAll (fun c : Char => c ≠ '\n' ∧ c ≠ '\x7b' ∧ c ≠ '\x7d') s.toList

theorem Plain.append {first second : String} (before : Plain first) (after : Plain second) :
    Plain (first ++ second) := by
  intro c member
  rw [String.toList_append, List.mem_append] at member
  exact member.elim (before c) (after c)

theorem Plain.unbraced {s : String} (plain : Plain s) :
    closesBlock s = false ∧ opensBlock s = false := by
  constructor
  · exact beq_false_of_ne fun opens => (plain _ (List.mem_of_mem_head? opens)).2.2 rfl
  · exact beq_false_of_ne fun closes => (plain _ (List.mem_of_getLast? closes)).2.1 rfl

theorem Plain.not_mem {s : String} (plain : Plain s) : '\n' ∉ s.toList :=
  fun member => (plain _ member).1 rfl

theorem Plain.head?_ne {s : String} (plain : Plain s) : s.toList.head? ≠ some '\x7d' :=
  fun head => (plain _ (List.mem_of_mem_head? head)).2.2 rfl

theorem nesting?_plain {s : String} (plain : Plain s) (depth : Nat) :
    nesting? depth s.toList = some depth := by
  rw [Plain] at plain
  generalize s.toList = chars at plain ⊢
  induction chars with
  | nil => rfl
  | cons c rest ih =>
    obtain ⟨⟨_, unopened, unclosed⟩, others⟩ := List.forall_mem_cons.mp plain
    rw [nesting?, if_neg unopened, if_neg unclosed, ih others]

/-- The first character is there and no blank. -/
def Begins (s : String) : Prop :=
  s.toList.head?.any (!Text.isBlank ·) = true

/-- The last character is there and no blank. -/
def Ends (s : String) : Prop :=
  s.toList.getLast?.any (!Text.isBlank ·) = true

instance (s : String) : Decidable (Begins s) :=
  inferInstanceAs (Decidable (_ = true))

instance (s : String) : Decidable (Ends s) :=
  inferInstanceAs (Decidable (_ = true))

theorem Begins.exists_cons {s : String} (begins : Begins s) :
    ∃ c rest, s.toList = c :: rest ∧ Text.isBlank c = false := by
  obtain ⟨c, head, solid⟩ := (Option.any_eq_true _ _).mp begins
  obtain ⟨rest, spelled⟩ := List.head?_eq_some_iff.mp head
  exact ⟨c, rest, spelled, by simpa using solid⟩

theorem Begins.append {first : String} (begins : Begins first) (second : String) :
    Begins (first ++ second) := by
  obtain ⟨c, rest, spelled, solid⟩ := begins.exists_cons
  simp [Begins, spelled, solid]

theorem Ends.append {second : String} (ends : Ends second) (first : String) :
    Ends (first ++ second) := by
  have filled : second.toList ≠ [] := by
    intro empty
    rw [Ends, empty] at ends
    cases ends
  rw [Ends, String.toList_append, List.getLast?_append_of_ne_nil _ filled]
  exact ends

/-- In laid out text braces come out even, and none closes what is not open. -/
theorem LaidOut.nesting?_unlines {depth behind : Nat} {lines : List String}
    (laidOut : LaidOut depth lines behind) : nesting? depth (unlines lines).toList = some behind := by
  induction lines generalizing depth with
  | nil => exact congrArg some laidOut
  | cons line rest ih =>
    obtain ⟨_, between, nested, later⟩ := laidOut
    have lineEnd : nesting? between "\n".toList = some between := rfl
    rw [unlines_cons, String.toList_append, String.toList_append, nesting?_append, nesting?_append,
      nested, Option.bind_some, lineEnd, Option.bind_some, ih later]

/-- Text without braces and white space. -/
def Unbroken (s : String) : Prop :=
  ∀ c ∈ s.toList, c ≠ '\x7b' ∧ c ≠ '\x7d' ∧ Text.isBlank c = false

def Solid (s : String) : Prop :=
  s ≠ "" ∧ Unbroken s

instance (s : String) : Decidable (Unbroken s) :=
  List.decidableBAll (fun c : Char => c ≠ '\x7b' ∧ c ≠ '\x7d' ∧ Text.isBlank c = false) s.toList

instance (s : String) : Decidable (Solid s) :=
  inferInstanceAs (Decidable (_ ∧ _))

theorem Unbroken.plain {s : String} (unbroken : Unbroken s) : Plain s := by
  intro c member
  obtain ⟨unopened, unclosed, inked⟩ := unbroken c member
  refine ⟨fun lineEnd => ?_, unopened, unclosed⟩
  rw [lineEnd] at inked
  cases inked

theorem Unbroken.begins {s : String} (unbroken : Unbroken s) (filled : s ≠ "") : Begins s := by
  cases spelled : s.toList with
  | nil => exact absurd (String.toList_eq_nil_iff.mp spelled) filled
  | cons c rest =>
    have inked := (unbroken c (by simp [spelled])).2.2
    simp [Begins, spelled, inked]

theorem Solid.plain {s : String} (solid : Solid s) : Plain s :=
  solid.2.plain

theorem Solid.begins {s : String} (solid : Solid s) : Begins s :=
  solid.2.begins solid.1

/-- The margin of a line at some level, four blanks for each. -/
def javaMargin (level : Nat) : String :=
  (Indent.spaces 4).margin level

theorem toList_javaMargin (level : Nat) :
    (javaMargin level).toList = List.replicate (4 * level) ' ' := by
  rw [javaMargin, Indent.margin, String.toList_ofList]

theorem plain_javaMargin (level : Nat) : Plain (javaMargin level) := by
  intro c member
  rw [toList_javaMargin, List.mem_replicate] at member
  rw [member.2]
  decide

/-- Text without blanks at its ends stands in a line behind the margin of its level. -/
theorem indents_margin {depth : Nat} {s : String} (begins : Begins s) (ends : Ends s) :
    Indents depth (javaMargin (if s.toList.head? = some '\x7d' then depth - 1 else depth) ++ s) := by
  have content (count : Nat) :
      (List.replicate count ' ' ++ s.toList).dropWhile (· == ' ') = s.toList := by
    obtain ⟨c, rest, spelled, solid⟩ := begins.exists_cons
    have inked : (c == ' ') = false := by
      refine beq_false_of_ne fun blank => ?_
      rw [blank] at solid
      cases solid
    rw [List.dropWhile_append_of_pos (by simp [List.mem_replicate]), spelled,
      List.dropWhile_cons_of_neg (by simp [inked])]
  refine .inr ?_
  rw [String.toList_append, toList_javaMargin, content]
  exact ⟨rfl, begins, ends⟩

/-- The piece is a token that changes neither lines nor nesting. -/
def Piece.IsPlain : Piece → Prop
  | token s => Plain s
  | _ => False

def AllPlain (pieces : List Piece) : Prop :=
  ∀ piece ∈ pieces, piece.IsPlain

@[simp] theorem allPlain_nil : AllPlain [] := nofun

@[simp] theorem allPlain_token (s : String) (rest : List Piece) :
    AllPlain (.token s :: rest) ↔ Plain s ∧ AllPlain rest :=
  List.forall_mem_cons

@[simp] theorem allPlain_append (first second : List Piece) :
    AllPlain (first ++ second) ↔ AllPlain first ∧ AllPlain second :=
  List.forall_mem_append

namespace AllPlain

variable {pieces : List Piece}

theorem isInline (plain : AllPlain pieces) : ∀ piece ∈ pieces, piece.IsInline := by
  intro piece member
  cases piece with
  | token s => trivial
  | _ => exact (plain _ member).elim

/-- Plain pieces write plain text and stay on the level that they find. -/
theorem content (plain : AllPlain pieces) : Plain (content pieces) := by
  induction pieces with
  | nil => decide
  | cons piece rest ih =>
    obtain ⟨first, others⟩ := List.forall_mem_cons.mp plain
    rw [content_cons]
    cases piece with
    | token s => exact Plain.append first (ih others)
    | _ => exact first.elim

theorem levels (plain : AllPlain pieces) (level : Nat) :
    levelAfter level pieces = level ∧ standsAt level pieces = level := by
  induction pieces with
  | nil => exact ⟨rfl, rfl⟩
  | cons piece rest ih =>
    obtain ⟨first, others⟩ := List.forall_mem_cons.mp plain
    obtain ⟨after, stands⟩ := ih others
    cases piece with
    | token s =>
      have unbraced := Plain.unbraced first
      rw [levelAfter, List.foldl_cons, standsAt]
      simp only [Piece.levelAfter, Piece.standsAt, unbraced, Bool.false_eq_true, if_false,
        Nat.add_zero]
      exact ⟨after, by rw [stands, ite_self]⟩
    | _ => exact first.elim

end AllPlain

/-- From a line start at one level, the pieces write just these lines and leave another level. The lines
are laid out. -/
structure Lays (pieces : List Piece) (level : Nat) (lines : List String) (behind : Nat) : Prop where
  written : ∀ text, (⟨.spaces 4, level, true, text⟩ : Buffer).writeAll pieces =
    ⟨.spaces 4, behind, true, text ++ unlines lines⟩
  laidOut : LaidOut level lines behind
  inLine : ∀ line ∈ lines, '\n' ∉ line.toList

namespace Lays

variable {pieces : List Piece} {level behind : Nat}

theorem nil (level : Nat) : Lays [] level [] level where
  written text := by simp [unlines]
  laidOut := rfl
  inLine := nofun

theorem append {first second : List Piece} {between : Nat} {lines more : List String}
    (before : Lays first level lines between) (after : Lays second between more behind) :
    Lays (first ++ second) level (lines ++ more) behind where
  written text := by
    rw [Buffer.writeAll_append, before.written, after.written, unlines_append, String.append_assoc]
  laidOut := before.laidOut.append after.laidOut
  inLine := List.forall_mem_append.mpr ⟨before.inLine, after.inLine⟩

/-- An empty line. -/
theorem blank (level : Nat) : Lays [.blankLine] level [""] level where
  written text := by simp [Buffer.write_blankLine, unlines]
  laidOut := ⟨.inl rfl, level, rfl, rfl⟩
  inLine := by simp

/-- A line of pieces whose braces, as text, are those that the level follows. -/
theorem line (pieces : List Piece) (level : Nat) (inline : ∀ piece ∈ pieces, piece.IsInline)
    (begins : Begins (content pieces))
    (ends : Ends (content pieces)) (inLine : '\n' ∉ (content pieces).toList)
    (stands : standsAt level pieces =
      if (content pieces).toList.head? = some '\x7d' then level - 1 else level)
    (nested : nesting? level (content pieces).toList = some (levelAfter level pieces)) :
    Lays (pieces ++ [.lineEnd]) level
      [javaMargin (standsAt level pieces) ++ content pieces] (levelAfter level pieces) where
  written text := by
    have filled : content pieces ≠ "" := by
      intro empty
      rw [empty] at begins
      cases begins
    rw [Buffer.writeAll_line rfl inline filled, unlines, List.map_singleton]
    simp [javaMargin]
  laidOut := by
    refine ⟨stands ▸ indents_margin begins ends, _, ?_, rfl⟩
    rw [String.toList_append, nesting?_append, nesting?_plain (plain_javaMargin _), Option.bind_some,
      nested]
  inLine := by
    rw [List.forall_mem_singleton, String.toList_append, List.mem_append]
    exact not_or.mpr ⟨(plain_javaMargin _).not_mem, inLine⟩

/-- A line without braces. -/
theorem plain (plain : AllPlain pieces) (level : Nat)
    (begins : Begins (content pieces)) (ends : Ends (content pieces)) :
    Lays (pieces ++ [.lineEnd]) level [javaMargin level ++ content pieces] level := by
  obtain ⟨after, stands⟩ := plain.levels level
  have text := plain.content
  have laid := line pieces level plain.isInline begins ends text.not_mem
    (by rw [stands, if_neg text.head?_ne]) (by rw [nesting?_plain text, after])
  rwa [after, stands] at laid

/-- A line that ends in a semicolon. -/
theorem statement (plain : AllPlain pieces) (begins : Begins (content pieces)) (level : Nat) :
    Lays (pieces ++ [.token ";", .lineEnd]) level [javaMargin level ++ (content pieces ++ ";")]
      level := by
  have text : content (pieces ++ [.token ";"]) = content pieces ++ ";" := by
    simp [Piece.content]
  have ended : AllPlain (pieces ++ [.token ";"]) := by
    rw [allPlain_append]
    exact ⟨plain, by simp; decide⟩
  have laid := Lays.plain ended level
    (by rw [text]; exact begins.append _) (by rw [text]; exact Ends.append (by decide) _)
  rwa [text, List.append_assoc] at laid

/-- A line that opens a brace at its end. -/
theorem opening (plain : AllPlain pieces) (level : Nat) (begins : Begins (content pieces))
    (last : String) (unbraced : Plain last) :
    Lays (pieces ++ [.token (last ++ "\x7b"), .lineEnd]) level
      [javaMargin level ++ (content pieces ++ (last ++ "\x7b"))] (level + 1) := by
  have opens : opensBlock (last ++ "\x7b") = true := by
    simp [opensBlock]
  have unclosed : closesBlock (last ++ "\x7b") = false := by
    refine beq_false_of_ne fun head => ?_
    rcases List.mem_append.mp (String.toList_append ▸ List.mem_of_mem_head? head) with here | brace
    · exact (unbraced _ here).2.2 rfl
    · simp at brace
  have text : content (pieces ++ [.token (last ++ "\x7b")]) = content pieces ++ (last ++ "\x7b") := by
    simp [Piece.content]
  obtain ⟨c, rest, spelled, _⟩ := begins.exists_cons
  have filled : content pieces ≠ "" := fun empty => by simp [empty] at spelled
  obtain ⟨after, stands⟩ := plain.levels level
  have behind : levelAfter level (pieces ++ [.token (last ++ "\x7b")]) = level + 1 := by
    rw [levelAfter_append, after]
    simp [levelAfter, Piece.levelAfter, opens, unclosed]
  have head : (content pieces ++ (last ++ "\x7b")).toList.head? ≠ some '\x7d' := by
    have first := plain.content.head?_ne
    rw [spelled] at first
    rwa [String.toList_append, spelled]
  have laid := line (pieces ++ [.token (last ++ "\x7b")]) level
    (List.forall_mem_append.mpr ⟨plain.isInline, by simp [Piece.IsInline]⟩)
    (by rw [text]; exact begins.append _)
    (by rw [text]; exact (Ends.append (by decide) _).append _)
    (by
      rw [text, String.toList_append, String.toList_append, List.mem_append, List.mem_append]
      exact not_or.mpr ⟨plain.content.not_mem, not_or.mpr ⟨unbraced.not_mem, by decide⟩⟩)
    (by rw [text, if_neg head, standsAt_append level filled, stands])
    (by
      rw [text, behind, String.toList_append, nesting?_append, nesting?_plain plain.content,
        Option.bind_some, String.toList_append, nesting?_append, nesting?_plain unbraced]
      rfl)
  rwa [behind, text, standsAt_append level filled, stands, List.append_assoc] at laid

/-- The line of a closing brace. -/
theorem closing (level : Nat) :
    Lays (Source.line "\x7d") (level + 1) [javaMargin level ++ "\x7d"] level :=
  line [.token "\x7d"] (level + 1) (by simp [Piece.IsInline]) (by decide)
    (by decide) (by decide) rfl rfl

end Lays

theorem LaidOut.intercalate {members : List (List String)} {level : Nat}
    (laidOut : ∀ member ∈ members, LaidOut level member level) :
    LaidOut level (List.intercalate [""] members) level := by
  induction members with
  | nil => rfl
  | cons first rest ih =>
    obtain ⟨here, others⟩ := List.forall_mem_cons.mp laidOut
    cases rest with
    | nil => simpa using here
    | cons second rest =>
      rw [List.intercalate_cons_cons]
      exact (here.append (Lays.blank level).laidOut).append (ih others)

end EntityMapper.Source
