import EntityMapper.Source.Buffer
import Mathlib.Data.List.Basic

/-!
# Writing to a buffer

A buffer only appends, and what it appends hangs on its indent, level and line state alone; so writing
behind some text is writing and putting the text in front (`writeAll_behind`). The level follows from the
tokens (`level_writeAll`). Where pieces hold no line end inside, a line is open exactly if the text ends
within one (`atLineStart_fork_iff`), so the splice of what a fork has written leaves the line state
that writing it in place leaves (`splice_writeAll_fork`).
-/
namespace EntityMapper.Source

namespace Piece

/-- Tokens and literals hold no line end. -/
def StaysInLine : Piece → Prop
  | token s => '\n' ∉ s.toList
  | literal s => '\n' ∉ s.toList
  | _ => True

/-- The level of a line that begins with the piece. A token that closes a block stands outside of it. -/
def standsAt (level : Nat) : Piece → Nat
  | token s => if closesBlock s then level - 1 else level
  | _ => level

/-- The level behind a piece: a token first closes a block, if any is open, and then opens one. -/
def levelAfter (level : Nat) : Piece → Nat
  | token s => (if closesBlock s then level - 1 else level) + (if opensBlock s then 1 else 0)
  | _ => level

end Piece

/-- The level behind some pieces. -/
def levelAfter (level : Nat) (pieces : List Piece) : Nat :=
  pieces.foldl Piece.levelAfter level

theorem levelAfter_append (level : Nat) (first second : List Piece) :
    levelAfter level (first ++ second) = levelAfter (levelAfter level first) second :=
  List.foldl_append

/-- The text is empty or its last line is ended. -/
def EndsLine (text : String) : Prop :=
  text = "" ∨ text.toList.getLast? = some '\n'

theorem endsLine_append {text more : String} (filled : more ≠ "") :
    EndsLine (text ++ more) ↔ more.toList.getLast? = some '\n' := by
  have chars : more.toList ≠ [] := fun empty => filled (String.toList_eq_nil_iff.mp empty)
  have joined : text ++ more ≠ "" := fun empty => filled (String.append_eq_empty_iff.mp empty).2
  rw [EndsLine, or_iff_right joined, String.toList_append, List.getLast?_append_of_ne_nil _ chars]

theorem not_endsLine_append {text more : String} (filled : more ≠ "") (inLine : '\n' ∉ more.toList) :
    ¬ EndsLine (text ++ more) := by
  rw [endsLine_append filled]
  exact fun ended => inLine (List.mem_of_getLast? ended)

namespace Buffer

/-- The margin that the next piece is written behind. -/
def marginFor (buffer : Buffer) (piece : Piece) : String :=
  if buffer.atLineStart then buffer.indent.margin (piece.standsAt buffer.level) else ""

theorem write_token (buffer : Buffer) {s : String} (filled : s ≠ "") :
    buffer.write (.token s) = { buffer with
      level := (Piece.token s).levelAfter buffer.level
      atLineStart := false
      text := buffer.text ++ (buffer.marginFor (.token s) ++ s) } := by
  obtain ⟨indent, level, start, text⟩ := buffer
  simp only [write, if_neg filled, marginFor, Piece.levelAfter, Piece.standsAt, startLine, append]
  cases start <;> cases opensBlock s <;> simp [String.append_assoc]

theorem write_literal (buffer : Buffer) {s : String} (filled : s ≠ "") :
    buffer.write (.literal s) = { buffer with
      atLineStart := false
      text := buffer.text ++ (buffer.marginFor (.literal s) ++ s) } := by
  obtain ⟨indent, level, start, text⟩ := buffer
  simp only [write, if_neg filled, marginFor, Piece.standsAt, startLine, append]
  cases start <;> simp [String.append_assoc]

theorem write_splice (buffer : Buffer) {s : String} (filled : s ≠ "") :
    buffer.write (.splice s) = { buffer with
      atLineStart := s.toList.getLast? == some '\n'
      text := buffer.text ++ s } := by
  rw [write, if_neg filled, append]

theorem write_lineEnd (buffer : Buffer) :
    buffer.write .lineEnd = { buffer with atLineStart := true, text := buffer.text ++ "\n" } := rfl

theorem write_blankLine (buffer : Buffer) :
    buffer.write .blankLine = { buffer with
      atLineStart := true
      text := buffer.text ++ ((if buffer.atLineStart then "" else "\n") ++ "\n") } := by
  obtain ⟨indent, level, start, text⟩ := buffer
  cases start <;> simp [write, endLine, String.append_assoc]

@[simp] theorem write_token_empty (buffer : Buffer) : buffer.write (.token "") = buffer := rfl

@[simp] theorem write_literal_empty (buffer : Buffer) : buffer.write (.literal "") = buffer := rfl

@[simp] theorem write_splice_empty (buffer : Buffer) : buffer.write (.splice "") = buffer := rfl

@[simp] theorem writeAll_nil (buffer : Buffer) : buffer.writeAll [] = buffer := rfl

@[simp] theorem writeAll_cons (buffer : Buffer) (piece : Piece) (pieces : List Piece) :
    buffer.writeAll (piece :: pieces) = (buffer.write piece).writeAll pieces := rfl

theorem writeAll_append (buffer : Buffer) (first second : List Piece) :
    buffer.writeAll (first ++ second) = (buffer.writeAll first).writeAll second :=
  List.foldl_append

/-- The buffer with some text in front of its own. -/
def behind (before : String) (buffer : Buffer) : Buffer :=
  { buffer with text := before ++ buffer.text }

theorem write_behind (before : String) (buffer : Buffer) (piece : Piece) :
    (buffer.behind before).write piece = (buffer.write piece).behind before := by
  cases piece with
  | token s =>
    by_cases empty : s = ""
    · rw [empty, write_token_empty, write_token_empty]
    · simp only [write_token _ empty, behind, marginFor, String.append_assoc]
  | literal s =>
    by_cases empty : s = ""
    · rw [empty, write_literal_empty, write_literal_empty]
    · simp only [write_literal _ empty, behind, marginFor, String.append_assoc]
  | splice s =>
    by_cases empty : s = ""
    · rw [empty, write_splice_empty, write_splice_empty]
    · simp only [write_splice _ empty, behind, String.append_assoc]
  | lineEnd => simp only [write_lineEnd, behind, String.append_assoc]
  | blankLine => simp only [write_blankLine, behind, String.append_assoc]

theorem writeAll_behind (before : String) (buffer : Buffer) (pieces : List Piece) :
    (buffer.behind before).writeAll pieces = (buffer.writeAll pieces).behind before := by
  induction pieces generalizing buffer with
  | nil => rfl
  | cons piece rest ih => rw [writeAll_cons, write_behind, ih, writeAll_cons]

/-- At a line start a buffer goes on as its fork begins. -/
theorem fork_behind {buffer : Buffer} (start : buffer.atLineStart = true) :
    buffer.fork.behind buffer.text = buffer := by
  obtain ⟨indent, level, _, text⟩ := buffer
  cases start
  simp [fork, new, behind]

/-- What is written at a line start is what the fork has written. -/
theorem writeAll_eq_fork {buffer : Buffer} (start : buffer.atLineStart = true)
    (pieces : List Piece) :
    buffer.writeAll pieces = (buffer.fork.writeAll pieces).behind buffer.text := by
  rw [← writeAll_behind, fork_behind start]

/-- A piece appends something, keeps the indent and changes the level by its own braces only. -/
theorem exists_write_eq (buffer : Buffer) (piece : Piece) :
    ∃ start more, buffer.write piece =
      ⟨buffer.indent, piece.levelAfter buffer.level, start, buffer.text ++ more⟩ := by
  have nothing (kept : piece.levelAfter buffer.level = buffer.level) :
      buffer = ⟨buffer.indent, piece.levelAfter buffer.level, buffer.atLineStart,
        buffer.text ++ ""⟩ := by
    rw [kept, String.append_empty]
  cases piece with
  | token s =>
    by_cases empty : s = ""
    · subst empty
      exact ⟨_, _, nothing rfl⟩
    · exact ⟨_, _, write_token buffer empty⟩
  | literal s =>
    by_cases empty : s = ""
    · subst empty
      exact ⟨_, _, nothing rfl⟩
    · exact ⟨_, _, write_literal buffer empty⟩
  | splice s =>
    by_cases empty : s = ""
    · subst empty
      exact ⟨_, _, nothing rfl⟩
    · exact ⟨_, _, write_splice buffer empty⟩
  | lineEnd => exact ⟨_, _, write_lineEnd buffer⟩
  | blankLine => exact ⟨_, _, write_blankLine buffer⟩

/-- A fork knows indent and level only, which no piece changes but a token with braces. -/
theorem fork_write (buffer : Buffer) {piece : Piece}
    (kept : piece.levelAfter buffer.level = buffer.level) : (buffer.write piece).fork = buffer.fork := by
  obtain ⟨start, more, written⟩ := buffer.exists_write_eq piece
  rw [written, kept]
  rfl

theorem level_writeAll (buffer : Buffer) (pieces : List Piece) :
    (buffer.writeAll pieces).level = levelAfter buffer.level pieces := by
  induction pieces generalizing buffer with
  | nil => rfl
  | cons piece rest ih =>
    obtain ⟨start, more, written⟩ := buffer.exists_write_eq piece
    rw [writeAll_cons, ih, written, levelAfter, levelAfter, List.foldl_cons]

/-- What is written already stays. -/
theorem exists_text_writeAll (buffer : Buffer) (pieces : List Piece) :
    ∃ more, (buffer.writeAll pieces).text = buffer.text ++ more := by
  induction pieces generalizing buffer with
  | nil => exact ⟨"", by simp⟩
  | cons piece rest ih =>
    obtain ⟨start, own, written⟩ := buffer.exists_write_eq piece
    obtain ⟨more, later⟩ := ih (buffer.write piece)
    exact ⟨own ++ more, by rw [writeAll_cons, later, written, String.append_assoc]⟩

theorem indent_writeAll (buffer : Buffer) (pieces : List Piece) :
    (buffer.writeAll pieces).indent = buffer.indent := by
  induction pieces generalizing buffer with
  | nil => rfl
  | cons piece rest ih =>
    obtain ⟨start, more, written⟩ := buffer.exists_write_eq piece
    rw [writeAll_cons, ih, written]

/-- Nothing is behind the last line end where a line starts. -/
theorem endsLine_write {buffer : Buffer} (shown : buffer.atLineStart = true → EndsLine buffer.text)
    (piece : Piece) (start : (buffer.write piece).atLineStart = true) :
    EndsLine (buffer.write piece).text := by
  cases piece with
  | token s =>
    by_cases empty : s = ""
    · subst empty
      exact shown start
    · rw [write_token _ empty] at start
      cases start
  | literal s =>
    by_cases empty : s = ""
    · subst empty
      exact shown start
    · rw [write_literal _ empty] at start
      cases start
  | splice s =>
    by_cases empty : s = ""
    · subst empty
      exact shown start
    · rw [write_splice _ empty] at start ⊢
      exact (endsLine_append empty).mpr (beq_iff_eq.mp start)
  | lineEnd => exact (endsLine_append (by decide)).mpr rfl
  | blankLine =>
    rw [write_blankLine, ← String.append_assoc]
    exact (endsLine_append (by decide)).mpr rfl

theorem endsLine_writeAll {buffer : Buffer} (shown : buffer.atLineStart = true → EndsLine buffer.text)
    (pieces : List Piece) (start : (buffer.writeAll pieces).atLineStart = true) :
    EndsLine (buffer.writeAll pieces).text := by
  induction pieces generalizing buffer with
  | nil => exact shown start
  | cons piece rest ih => exact ih (endsLine_write shown piece) start

/-- A piece without line ends inside leaves the line open behind it. -/
theorem atLineStart_write {buffer : Buffer} (shown : EndsLine buffer.text → buffer.atLineStart = true)
    {piece : Piece} (inLine : piece.StaysInLine) (ended : EndsLine (buffer.write piece).text) :
    (buffer.write piece).atLineStart = true := by
  cases piece with
  | token s =>
    by_cases empty : s = ""
    · subst empty
      exact shown ended
    · rw [write_token _ empty, ← String.append_assoc] at ended
      exact absurd ended (not_endsLine_append empty inLine)
  | literal s =>
    by_cases empty : s = ""
    · subst empty
      exact shown ended
    · rw [write_literal _ empty, ← String.append_assoc] at ended
      exact absurd ended (not_endsLine_append empty inLine)
  | splice s =>
    by_cases empty : s = ""
    · subst empty
      exact shown ended
    · rw [write_splice _ empty] at ended ⊢
      exact beq_iff_eq.mpr ((endsLine_append empty).mp ended)
  | lineEnd => rfl
  | blankLine => rw [write_blankLine]

theorem atLineStart_writeAll {buffer : Buffer}
    (shown : EndsLine buffer.text → buffer.atLineStart = true) {pieces : List Piece}
    (inLine : ∀ piece ∈ pieces, piece.StaysInLine) (ended : EndsLine (buffer.writeAll pieces).text) :
    (buffer.writeAll pieces).atLineStart = true := by
  induction pieces generalizing buffer with
  | nil => exact shown ended
  | cons piece rest ih =>
    obtain ⟨first, others⟩ := List.forall_mem_cons.mp inLine
    exact ih (atLineStart_write shown first) others ended

/-- What a fork has written shows whether it is at a line start. -/
theorem atLineStart_fork_iff (buffer : Buffer) {pieces : List Piece}
    (inLine : ∀ piece ∈ pieces, piece.StaysInLine) :
    (buffer.fork.writeAll pieces).atLineStart = true ↔ EndsLine (buffer.fork.writeAll pieces).text :=
  ⟨endsLine_writeAll (fun _ => .inl rfl) pieces, atLineStart_writeAll (fun _ => rfl) inLine⟩

/-- At a line start, splicing in what a fork has written is writing in place but for the level, which
stays as it is. -/
theorem splice_writeAll_fork {buffer : Buffer} (start : buffer.atLineStart = true)
    {pieces : List Piece} (inLine : ∀ piece ∈ pieces, piece.StaysInLine) :
    buffer.write (.splice (buffer.fork.writeAll pieces).text) =
      { buffer.writeAll pieces with level := buffer.level } := by
  have lines := buffer.atLineStart_fork_iff inLine
  have inPlace : { buffer.writeAll pieces with level := buffer.level } =
      (⟨buffer.indent, buffer.level, (buffer.fork.writeAll pieces).atLineStart,
        buffer.text ++ (buffer.fork.writeAll pieces).text⟩ : Buffer) := by
    rw [writeAll_eq_fork start, behind, indent_writeAll]
    rfl
  rw [inPlace]
  by_cases empty : (buffer.fork.writeAll pieces).text = ""
  · rw [lines.mpr (.inl empty), empty, write_splice_empty, String.append_empty, ← start]
  · rw [EndsLine, or_iff_right empty] at lines
    rw [write_splice _ empty, Bool.eq_iff_iff.mpr (beq_iff_eq.trans lines.symm)]

end Buffer

end EntityMapper.Source
