import EntityMapper.Proofs.Source.Emission

/-!
# Writing a line

Tokens and literals stay on their line. Together they write the margin of the first that is not empty,
if they begin the line, and then their texts (`writeAll_inline`); with a line end behind, that is one line
(`writeAll_line`).
-/
namespace EntityMapper.Source

namespace Piece

/-- The text of a piece that stays on its line. -/
def content : Piece → String
  | token s => s
  | literal s => s
  | _ => ""

/-- Tokens and literals stay on their line. -/
def IsInline : Piece → Prop
  | token _ => True
  | literal _ => True
  | _ => False

end Piece

def content (pieces : List Piece) : String :=
  String.join (pieces.map Piece.content)

@[simp] theorem content_nil : content [] = "" := rfl

@[simp] theorem content_cons (piece : Piece) (pieces : List Piece) :
    content (piece :: pieces) = piece.content ++ content pieces := by
  rw [content, List.map_cons, String.join_cons, content]

@[simp] theorem content_append (first second : List Piece) :
    content (first ++ second) = content first ++ content second := by
  rw [content, List.map_append, String.join_append, content, content]

/-- The level of a line that begins with the pieces: that of the first that is not empty. -/
def standsAt (level : Nat) : List Piece → Nat
  | [] => level
  | piece :: rest => if piece.content = "" then standsAt level rest else piece.standsAt level

/-- Pieces that write something begin the line, whatever follows. -/
theorem standsAt_append (level : Nat) {first : List Piece} (filled : content first ≠ "")
    (second : List Piece) : standsAt level (first ++ second) = standsAt level first := by
  induction first with
  | nil => exact absurd rfl filled
  | cons piece rest ih =>
    rw [List.cons_append, standsAt, standsAt]
    by_cases empty : piece.content = ""
    · rw [if_pos empty, if_pos empty, ih (by simpa [empty] using filled)]
    · rw [if_neg empty, if_neg empty]

namespace Buffer

theorem write_inline (buffer : Buffer) {piece : Piece} (inline : piece.IsInline)
    (filled : piece.content ≠ "") :
    buffer.write piece = { buffer with
      level := piece.levelAfter buffer.level
      atLineStart := false
      text := buffer.text ++ (buffer.marginFor piece ++ piece.content) } := by
  cases piece with
  | token s => exact write_token buffer filled
  | literal s => exact write_literal buffer filled
  | _ => cases inline

theorem write_inline_empty (buffer : Buffer) {piece : Piece} (inline : piece.IsInline)
    (empty : piece.content = "") :
    buffer.write piece = buffer ∧ piece.levelAfter buffer.level = buffer.level := by
  cases piece with
  | token s =>
    cases (empty : s = "")
    exact ⟨rfl, rfl⟩
  | literal s =>
    cases (empty : s = "")
    exact ⟨rfl, rfl⟩
  | _ => cases inline

/-- Pieces of one line write their texts one behind the other, after the margin if they begin it. -/
theorem writeAll_inline (buffer : Buffer) {pieces : List Piece}
    (inline : ∀ piece ∈ pieces, piece.IsInline) :
    buffer.writeAll pieces = { buffer with
      level := levelAfter buffer.level pieces
      atLineStart := buffer.atLineStart && decide (content pieces = "")
      text := buffer.text ++ ((if buffer.atLineStart && !decide (content pieces = "") then
          buffer.indent.margin (standsAt buffer.level pieces) else "") ++ content pieces) } := by
  induction pieces generalizing buffer with
  | nil => simp [levelAfter]
  | cons piece rest ih =>
    obtain ⟨first, others⟩ := List.forall_mem_cons.mp inline
    by_cases empty : piece.content = ""
    · obtain ⟨same, level⟩ := buffer.write_inline_empty first empty
      rw [writeAll_cons, same, ih buffer others, content_cons, empty, String.empty_append, standsAt,
        if_pos empty, levelAfter, levelAfter, List.foldl_cons, level]
    · rw [writeAll_cons, buffer.write_inline first empty, ih _ others]
      have filled : content (piece :: rest) ≠ "" := by
        simp [empty]
      simp [standsAt, empty, marginFor, levelAfter, String.append_assoc]

/-- A line of pieces from one line start to the next. -/
theorem writeAll_line {buffer : Buffer} (start : buffer.atLineStart = true) {pieces : List Piece}
    (inline : ∀ piece ∈ pieces, piece.IsInline) (filled : content pieces ≠ "") :
    buffer.writeAll (pieces ++ [.lineEnd]) = { buffer with
      level := levelAfter buffer.level pieces
      text := buffer.text ++
        (buffer.indent.margin (standsAt buffer.level pieces) ++ content pieces ++ "\n") } := by
  rw [writeAll_append, buffer.writeAll_inline inline, writeAll_cons, writeAll_nil, write_lineEnd]
  simp [start, filled, String.append_assoc]

end Buffer

end EntityMapper.Source
