import EntityMapper.Proofs.Source.Lines
import EntityMapper.Proofs.Text.Segments
import Mathlib.Data.List.Forall2

/-!
# Indentation line by line

What a buffer writes is known from its lines alone. Pieces fall into rows, one for each line of the text
(`rows`). A line shows its row if it holds what was written on it behind the margin of the level right
before its first text (`Row.Shows`). All lines of a fresh buffer do, however the braces of its tokens come
out, and the level is what these nest to (`lazy_indentation`).
-/
namespace EntityMapper.Source

/-- Tokens and literals that stay on their line, and ends of lines. -/
def Piece.IsLineWise : Piece → Prop
  | splice _ => False
  | piece => piece.StaysInLine

/-- The pieces of one line, behind all that were written before them. -/
structure Row where
  before : List Piece
  pieces : List Piece
  deriving DecidableEq, Repr

/-- The rows of some pieces, when others have been written and a row has begun. A blank line ends the
row only if something is written on it, and then leaves an empty one. -/
def rowsFrom (before row : List Piece) : List Piece → List Row
  | [] => [⟨before, row⟩]
  | .lineEnd :: rest => ⟨before, row⟩ :: rowsFrom (before ++ row ++ [.lineEnd]) [] rest
  | .blankLine :: rest =>
    let later := rowsFrom (before ++ row ++ [.blankLine]) [] rest
    if content row = "" then ⟨before, row⟩ :: later
    else ⟨before, row⟩ :: ⟨before ++ row, []⟩ :: later
  | piece :: rest => rowsFrom before (row ++ [piece]) rest

def rows (pieces : List Piece) : List Row :=
  rowsFrom [] [] pieces

/-- A line shows its row: it is empty where nothing is written, or else has all that is written behind
the margin of the level that stands before the first piece with a text. -/
inductive Row.Shows (indent : Indent) : Row → String → Prop
  | empty {row : Row} (nothing : content row.pieces = "") : Shows indent row ""
  | filled {before skipped rest : List Piece} {first : Piece} (nothing : content skipped = "")
      (something : first.content ≠ "") :
      Shows indent ⟨before, skipped ++ first :: rest⟩
        (indent.margin
            (first.standsAt ((Buffer.new indent).writeAll (before ++ skipped)).level) ++
          content (skipped ++ first :: rest))

/-- The text of a line that begins with the pieces, at a level. -/
def lineText (indent : Indent) (level : Nat) (pieces : List Piece) : String :=
  if content pieces = "" then "" else indent.margin (standsAt level pieces) ++ content pieces

/-- The character that margins are made of. -/
def Indent.mark : Indent → Char
  | spaces _ => ' '
  | tab => '\t'

theorem Indent.eq_mark_of_mem_margin {indent : Indent} {level : Nat} {c : Char}
    (member : c ∈ (indent.margin level).toList) : c = indent.mark := by
  cases indent with
  | spaces width =>
    rw [margin, String.toList_ofList] at member
    exact (List.mem_replicate.mp member).2
  | tab =>
    rw [margin, String.toList_ofList] at member
    exact (List.mem_replicate.mp member).2

theorem Indent.mark_ne_lineEnd (indent : Indent) : indent.mark ≠ '\n' := by
  cases indent <;> simp [mark]

theorem not_mem_content {pieces : List Piece} (inLine : ∀ piece ∈ pieces, piece.StaysInLine) :
    '\n' ∉ (content pieces).toList := by
  induction pieces with
  | nil => simp
  | cons piece rest ih =>
    obtain ⟨first, others⟩ := List.forall_mem_cons.mp inLine
    rw [content_cons, String.toList_append, List.mem_append]
    refine not_or.mpr ⟨?_, ih others⟩
    cases piece with
    | token s => exact first
    | literal s => exact first
    | _ => simp [Piece.content]

theorem not_mem_lineText (indent : Indent) (level : Nat) {pieces : List Piece}
    (inLine : ∀ piece ∈ pieces, piece.StaysInLine) :
    '\n' ∉ (lineText indent level pieces).toList := by
  rw [lineText]
  split
  · simp
  · rw [String.toList_append, List.mem_append]
    refine not_or.mpr ⟨fun inMargin => ?_, not_mem_content inLine⟩
    exact indent.mark_ne_lineEnd (Indent.eq_mark_of_mem_margin inMargin).symm

/-- Pieces that stay on their line and write nothing leave the level as it is. -/
theorem levelAfter_of_content_empty {pieces : List Piece}
    (inline : ∀ piece ∈ pieces, piece.IsInline) (nothing : content pieces = "") (level : Nat) :
    levelAfter level pieces = level := by
  induction pieces with
  | nil => rfl
  | cons piece rest ih =>
    obtain ⟨first, others⟩ := List.forall_mem_cons.mp inline
    rw [content_cons, String.append_eq_empty_iff] at nothing
    have kept := ((⟨.tab, level, true, ""⟩ : Buffer).write_inline_empty first nothing.1).2
    rw [levelAfter, List.foldl_cons, kept]
    exact ih others nothing.2

/-- Pieces that write something have a first that does, and the line stands where that one does. -/
theorem exists_first_content {pieces : List Piece} (something : content pieces ≠ "") :
    ∃ skipped first rest, pieces = skipped ++ first :: rest ∧ content skipped = "" ∧
      first.content ≠ "" ∧ ∀ level, standsAt level pieces = first.standsAt level := by
  induction pieces with
  | nil => exact absurd rfl something
  | cons piece rest ih =>
    by_cases empty : piece.content = ""
    · obtain ⟨skipped, first, others, rfl, nothing, filled, stands⟩ :=
        ih (by simpa [empty] using something)
      refine ⟨piece :: skipped, first, others, rfl, by simp [empty, nothing], filled, fun level => ?_⟩
      rw [standsAt, if_pos empty, stands]
    · exact ⟨[], piece, rest, rfl, rfl, empty, fun level => by rw [standsAt, if_neg empty]⟩

/-- The text of a line shows its row. -/
theorem shows_lineText (indent : Indent) (before : List Piece) {row : List Piece}
    (inline : ∀ piece ∈ row, piece.IsInline) :
    Row.Shows indent ⟨before, row⟩
      (lineText indent ((Buffer.new indent).writeAll before).level row) := by
  rw [lineText]
  split
  · rename_i nothing
    exact .empty nothing
  · rename_i something
    obtain ⟨skipped, first, rest, rfl, nothing, filled, stands⟩ := exists_first_content something
    have skippedInline := (List.forall_mem_append.mp inline).1
    have kept : ((Buffer.new indent).writeAll before).level =
        ((Buffer.new indent).writeAll (before ++ skipped)).level := by
      rw [Buffer.writeAll_append, Buffer.level_writeAll (Buffer.writeAll _ before),
        levelAfter_of_content_empty skippedInline nothing]
    rw [stands, kept]
    exact .filled nothing filled

namespace Buffer

theorem fork_congr {first second : Buffer} (indents : first.indent = second.indent)
    (levels : first.level = second.level) : first.fork = second.fork := by
  rw [fork, fork, indents, levels]

/-- What a fork writes on its first line. -/
theorem fork_writeAll_inline (buffer : Buffer) {row : List Piece}
    (inline : ∀ piece ∈ row, piece.IsInline) :
    buffer.fork.writeAll row =
      ⟨buffer.indent, levelAfter buffer.level row, decide (content row = ""),
        lineText buffer.indent buffer.level row⟩ := by
  rw [writeAll_inline _ inline, lineText]
  by_cases empty : content row = "" <;> simp [fork, new, empty]

end Buffer

/-- What pieces write behind others that end at a line start. -/
def textBehind (indent : Indent) (before pieces : List Piece) : String :=
  (((Buffer.new indent).writeAll before).fork.writeAll pieces).text

section Row

variable {indent : Indent} {before row : List Piece}

/-- Pieces that end at a line start are followed by what others write behind them. -/
theorem textBehind_append {first : List Piece} (second : List Piece)
    (start : (((Buffer.new indent).writeAll before).fork.writeAll first).atLineStart = true) :
    textBehind indent before (first ++ second) =
      textBehind indent before first ++ textBehind indent (before ++ first) second := by
  have same : (((Buffer.new indent).writeAll before).fork.writeAll first).fork =
      ((Buffer.new indent).writeAll (before ++ first)).fork := by
    apply Buffer.fork_congr
    · rw [Buffer.indent_writeAll, Buffer.indent_writeAll]
      exact Buffer.indent_writeAll _ before
    · rw [Buffer.writeAll_append, Buffer.level_writeAll, Buffer.level_writeAll _ first]
      rfl
  rw [textBehind, Buffer.writeAll_append, Buffer.writeAll_eq_fork start, same]
  rfl

variable (inline : ∀ piece ∈ row, piece.IsInline)

include inline

theorem textBehind_inline :
    textBehind indent before row =
      lineText indent ((Buffer.new indent).writeAll before).level row := by
  rw [textBehind, Buffer.fork_writeAll_inline _ inline, Buffer.indent_writeAll]
  rfl

theorem textBehind_lineEnd (rest : List Piece) :
    textBehind indent before (row ++ .lineEnd :: rest) =
      lineText indent ((Buffer.new indent).writeAll before).level row ++ "\n" ++
        textBehind indent (before ++ row ++ [.lineEnd]) rest := by
  have start : (((Buffer.new indent).writeAll before).fork.writeAll
      (row ++ [.lineEnd])).atLineStart = true := by
    rw [Buffer.writeAll_append]
    rfl
  have ended : textBehind indent before (row ++ [.lineEnd]) = textBehind indent before row ++ "\n" := by
    rw [textBehind, Buffer.writeAll_append]
    rfl
  rw [List.append_cons, textBehind_append rest start, ended, textBehind_inline inline,
    ← List.append_assoc]

theorem textBehind_blankLine (rest : List Piece) :
    textBehind indent before (row ++ .blankLine :: rest) =
      lineText indent ((Buffer.new indent).writeAll before).level row ++
        ((if content row = "" then "" else "\n") ++ "\n") ++
          textBehind indent (before ++ row ++ [.blankLine]) rest := by
  have start : (((Buffer.new indent).writeAll before).fork.writeAll
      (row ++ [.blankLine])).atLineStart = true := by
    rw [Buffer.writeAll_append, Buffer.writeAll_cons, Buffer.write_blankLine]
    rfl
  have ended : textBehind indent before (row ++ [.blankLine]) =
      textBehind indent before row ++ ((if content row = "" then "" else "\n") ++ "\n") := by
    rw [textBehind, textBehind, Buffer.writeAll_append, Buffer.writeAll_cons, Buffer.write_blankLine,
      Buffer.fork_writeAll_inline _ inline]
    simp only [decide_eq_true_eq]
    rfl
  rw [List.append_cons, textBehind_append rest start, ended, textBehind_inline inline,
    ← List.append_assoc]

end Row

theorem Piece.IsLineWise.staysInLine {piece : Piece} (lineWise : piece.IsLineWise) :
    piece.StaysInLine := by
  cases piece with
  | splice s => trivial
  | _ => exact lineWise

/-- Each line that a fresh buffer writes shows its row. The induction is on what is still to be written;
the row that has begun is carried along, since its first text may be yet to come. -/
theorem shows_rowsFrom (indent : Indent) {before row rest : List Piece}
    (inline : ∀ piece ∈ row, piece.IsInline) (inLine : ∀ piece ∈ row, piece.StaysInLine)
    (lineWise : ∀ piece ∈ rest, piece.IsLineWise) :
    List.Forall₂ (Row.Shows indent) (rowsFrom before row rest)
      (Text.segments '\n' (textBehind indent before (row ++ rest))) := by
  induction rest generalizing before row with
  | nil =>
    rw [List.append_nil, textBehind_inline inline,
      Text.segments_of_not_mem (not_mem_lineText indent _ inLine)]
    exact .cons (shows_lineText indent before inline) .nil
  | cons piece rest ih =>
    obtain ⟨first, others⟩ := List.forall_mem_cons.mp lineWise
    have fresh := not_mem_lineText indent ((Buffer.new indent).writeAll before).level inLine
    have shown := shows_lineText indent before inline
    cases piece with
    | splice s => exact first.elim
    | token s | literal s =>
      rw [List.append_cons]
      exact ih (List.forall_mem_append.mpr ⟨inline, by simp [Piece.IsInline]⟩)
        (List.forall_mem_append.mpr ⟨inLine, by simpa using first.staysInLine⟩) others
    | lineEnd =>
      rw [textBehind_lineEnd inline, Text.segments_line fresh]
      exact .cons shown (ih nofun nofun others)
    | blankLine =>
      have later : List.Forall₂ (Row.Shows indent) (rowsFrom (before ++ row ++ [.blankLine]) [] rest)
          (Text.segments '\n' (textBehind indent (before ++ row ++ [.blankLine]) rest)) :=
        ih nofun nofun others
      rw [textBehind_blankLine inline, rowsFrom]
      by_cases nothing : content row = ""
      · rw [if_pos nothing, if_pos nothing, String.empty_append,
          Text.segments_line fresh]
        exact .cons shown later
      · rw [if_neg nothing, if_neg nothing, ← String.append_assoc, String.append_assoc,
          Text.segments_line fresh]
        have blank := Text.segments_line (show '\n' ∉ "".toList by simp)
          (textBehind indent (before ++ row ++ [.blankLine]) rest)
        rw [String.empty_append] at blank
        rw [blank]
        exact .cons shown (.cons (.empty rfl) later)

/-- The token whose braces are followed, if the piece is one. -/
def Piece.tracked? : Piece → Option String
  | token s => if s = "" then none else some s
  | _ => none

/-- A token closes a level, if one is open, and then opens one. -/
def nestToken (level : Nat) (s : String) : Nat :=
  let closed := if closesBlock s then level - 1 else level
  if opensBlock s then closed + 1 else closed

theorem levelAfter_eq_foldl (level : Nat) (pieces : List Piece) :
    levelAfter level pieces = (pieces.filterMap Piece.tracked?).foldl nestToken level := by
  induction pieces generalizing level with
  | nil => rfl
  | cons piece rest ih =>
    rw [levelAfter, List.foldl_cons, ← levelAfter, ih]
    cases piece with
    | token s =>
      by_cases empty : s = ""
      · subst empty
        rfl
      · have counts : (Piece.token s).tracked? = some s := if_neg empty
        have nested : (Piece.token s).levelAfter level = nestToken level s := by
          rw [Piece.levelAfter, nestToken]
          cases opensBlock s <;> rfl
        rw [List.filterMap_cons_some counts, List.foldl_cons, nested]
    | _ => rfl

instance : DecidablePred Piece.IsInline
  | .token _ | .literal _ => isTrue trivial
  | .splice _ | .lineEnd | .blankLine => isFalse id

/-- Each token and literal is on one line, and they keep their order. -/
theorem flatMap_rowsFrom (before row : List Piece) {rest : List Piece}
    (lineWise : ∀ piece ∈ rest, piece.IsLineWise) :
    (rowsFrom before row rest).flatMap (·.pieces) = row ++ rest.filter (·.IsInline) := by
  induction rest generalizing before row with
  | nil => simp [rowsFrom]
  | cons piece rest ih =>
    obtain ⟨first, others⟩ := List.forall_mem_cons.mp lineWise
    cases piece with
    | splice s => exact first.elim
    | token s | literal s =>
      rw [rowsFrom, ih _ _ others, List.filter_cons_of_pos rfl, List.append_assoc,
        List.singleton_append]
      all_goals exact nofun
    | lineEnd =>
      rw [rowsFrom, List.flatMap_cons, ih _ _ others, List.filter_cons_of_neg (by decide),
        List.nil_append]
    | blankLine =>
      rw [rowsFrom, List.filter_cons_of_neg (by decide)]
      split <;> simp [ih _ _ others]

/-- A row is a stretch of what is written. -/
theorem prefix_of_mem_rowsFrom {before begun rest : List Piece} {row : Row}
    (member : row ∈ rowsFrom before begun rest) :
    row.before ++ row.pieces <+: before ++ begun ++ rest := by
  induction rest generalizing before begun with
  | nil =>
    rw [rowsFrom, List.mem_singleton] at member
    simp [member]
  | cons piece rest ih =>
    have here : before ++ begun <+: before ++ begun ++ piece :: rest := List.prefix_append _ _
    cases piece with
    | splice s | token s | literal s => simpa using ih member
    | lineEnd =>
      rcases List.mem_cons.mp member with rfl | later
      · exact here
      · simpa using ih later
    | blankLine =>
      rw [rowsFrom] at member
      split at member
      · rcases List.mem_cons.mp member with rfl | later
        · exact here
        · simpa using ih later
      · rcases List.mem_cons.mp member with rfl | others
        · exact here
        · rcases List.mem_cons.mp others with rfl | later
          · simp
          · simpa using ih later

/-- A line that is not empty has a text of its own, so it is all margin only if that is. -/
theorem Row.Shows.content_of_marks {indent : Indent} {row : Row} {line : String}
    (shown : row.Shows indent line) (filled : line ≠ "")
    (marks : ∀ c ∈ line.toList, c = indent.mark) :
    content row.pieces ≠ "" ∧ ∀ c ∈ (content row.pieces).toList, c = indent.mark := by
  cases shown with
  | empty nothing => exact absurd rfl filled
  | filled nothing something =>
    rw [String.toList_append] at marks
    exact ⟨by simp [something], fun c member => marks c (List.mem_append_right _ member)⟩

/-- A fresh buffer, of whatever indent, that is given tokens and literals without line ends, line ends and
blank lines writes one line for each row of them. A line is empty or holds what is written in its row
behind the margin of the level right before the row's first text, a token that closes a block standing
outside of it; so no line is all margin unless its own text is. The level is what the tokens nest to, at all
times; empty tokens and literals do not change it. -/
theorem lazy_indentation (indent : Indent) {pieces : List Piece}
    (lineWise : ∀ piece ∈ pieces, piece.IsLineWise) :
    List.Forall₂ (fun row line => Row.Shows indent row line ∧
        (line ≠ "" → (∀ c ∈ line.toList, c = indent.mark) →
          content row.pieces ≠ "" ∧ ∀ c ∈ (content row.pieces).toList, c = indent.mark))
      (rows pieces) (Text.segments '\n' ((Buffer.new indent).writeAll pieces).text) ∧
    (rows pieces).flatMap (·.pieces) = pieces.filter (·.IsInline) ∧
    (∀ row ∈ rows pieces, row.before ++ row.pieces <+: pieces) ∧
    (∀ written : List Piece, ((Buffer.new indent).writeAll written).level =
      (written.filterMap Piece.tracked?).foldl nestToken 0) ∧
    ∀ (buffer : Buffer) (s : String), buffer.write (.token "") = buffer ∧
      (buffer.write (.literal s)).level = buffer.level := by
  refine ⟨?_, flatMap_rowsFrom [] [] lineWise, fun row member => ?_, fun written => ?_,
    fun buffer s => ⟨rfl, ?_⟩⟩
  · have shown : List.Forall₂ (Row.Shows indent) (rows pieces)
        (Text.segments '\n' ((Buffer.new indent).writeAll pieces).text) :=
      shows_rowsFrom indent nofun nofun lineWise
    exact shown.imp fun row line shown => ⟨shown, shown.content_of_marks⟩
  · simpa using prefix_of_mem_rowsFrom member
  · rw [Buffer.level_writeAll, levelAfter_eq_foldl]
    rfl
  · obtain ⟨start, more, written⟩ := buffer.exists_write_eq (.literal s)
    rw [written]
    rfl

/-- A block is closed that is not open, another one holds a literal brace and ends with an open line, and
empty tokens stand where lines begin. -/
theorem unevenBlocks_indented :
    let pieces : List Piece := [.token "\x7d", .token " go \x7b", .lineEnd, .token "", .lineEnd,
      .literal "\"\x7d\"", .token "", .token ";", .blankLine, .token "", .token "\x7d", .blankLine]
    (∀ piece ∈ pieces, piece.IsLineWise) ∧
      Text.segments '\n' ((Buffer.new (.spaces 2)).writeAll pieces).text =
        ["\x7d go \x7b", "", "  \"\x7d\";", "", "\x7d", "", ""] ∧
      List.Forall₂ (fun row line => Row.Shows (.spaces 2) row line ∧
          (line ≠ "" → (∀ c ∈ line.toList, c = ' ') →
            content row.pieces ≠ "" ∧ ∀ c ∈ (content row.pieces).toList, c = ' '))
        (rows pieces) ["\x7d go \x7b", "", "  \"\x7d\";", "", "\x7d", "", ""] := by
  intro pieces
  have lineWise : ∀ piece ∈ pieces, piece.IsLineWise := by
    simp [pieces, Piece.IsLineWise, Piece.StaysInLine]
  have text : Text.segments '\n' ((Buffer.new (.spaces 2)).writeAll pieces).text =
      ["\x7d go \x7b", "", "  \"\x7d\";", "", "\x7d", "", ""] := by
    decide
  exact ⟨lineWise, text, text ▸ (lazy_indentation (.spaces 2) lineWise).1⟩

end EntityMapper.Source
