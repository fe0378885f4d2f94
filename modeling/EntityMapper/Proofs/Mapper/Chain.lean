import EntityMapper.Mapper.Part
import EntityMapper.Proofs.Source.Emission

/-!
# Parts one after the other

Each part writes on a fork at the level of the class body, and what it has written is spliced in. For
pieces without line ends inside that is the same as writing in place, the level apart
(`Buffer.splice_writeAll_fork`). So the outputs of the parts follow each other with an empty line between
neighbours (`writeFrom_eq`), and a part that writes nothing might as well be left out
(`writeFrom_filter`).
-/
namespace EntityMapper

open Source (Buffer EndsLine Piece levelAfter)

theorem Text.joinWith_cons (separator first : String) (rest : List String) :
    Text.joinWith separator (first :: rest) = first ++ String.join (rest.map (separator ++ ·)) := by
  induction rest generalizing first with
  | nil => rw [Text.joinWith, List.map_nil, String.join_nil, String.append_empty]
  | cons next rest ih =>
    rw [Text.joinWith, ih, List.map_cons, String.join_cons, String.append_assoc, String.append_assoc]
    exact List.cons_ne_nil next rest

namespace MapperPart

variable {context : MapperContext} {table : Table} {buffer : Buffer}

/-- What a part writes at the level of a buffer. -/
def output (context : MapperContext) (table : Table) (buffer : Buffer) (part : MapperPart) : String :=
  (buffer.fork.writeAll (part.layout context table)).text

/-- What the parts write that write something. -/
def outputs (context : MapperContext) (table : Table) (buffer : Buffer) (parts : List MapperPart) :
    List String :=
  (parts.map (output context table buffer)).filter (· ≠ "")

theorem outputs_cons_of_empty {part : MapperPart} (empty : part.output context table buffer = "")
    (rest : List MapperPart) :
    outputs context table buffer (part :: rest) = outputs context table buffer rest := by
  rw [outputs, List.map_cons, List.filter_cons_of_neg (by simpa using empty), outputs]

theorem outputs_cons_of_filled {part : MapperPart} (filled : part.output context table buffer ≠ "")
    (rest : List MapperPart) :
    outputs context table buffer (part :: rest) =
      part.output context table buffer :: outputs context table buffer rest := by
  rw [outputs, List.map_cons, List.filter_cons_of_pos (by simpa using filled), outputs]

theorem writeFrom_cons_of_empty {part : MapperPart} (empty : part.output context table buffer = "")
    (wrote : Bool) (rest : List MapperPart) :
    writeFrom context table wrote (part :: rest) buffer =
      writeFrom context table wrote rest buffer := by
  have nothing : (buffer.fork.writeAll (part.layout context table)).isEmpty = true :=
    beq_iff_eq.mpr empty
  rw [writeFrom, if_pos nothing]

/-- The buffer that a part's output is spliced into. -/
def joint (wrote : Bool) (buffer : Buffer) : Buffer :=
  if wrote then buffer.write .blankLine else buffer

theorem writeFrom_cons_of_filled {part : MapperPart} (filled : part.output context table buffer ≠ "")
    (wrote : Bool) (rest : List MapperPart) :
    writeFrom context table wrote (part :: rest) buffer =
      writeFrom context table true rest
        ((joint wrote buffer).write (.splice (part.output context table buffer))) := by
  have something : ¬ (buffer.fork.writeAll (part.layout context table)).isEmpty = true :=
    mt beq_iff_eq.mp filled
  rw [writeFrom, if_neg something]
  rfl

/-- The parts behind write at the same level. -/
theorem fork_joint (wrote : Bool) (buffer : Buffer) (s : String) :
    ((joint wrote buffer).write (.splice s)).fork = buffer.fork := by
  rw [Buffer.fork_write _ rfl, joint]
  split
  · exact Buffer.fork_write _ rfl
  · rfl

theorem output_congr {other : Buffer} (alike : other.fork = buffer.fork) :
    output context table other = output context table buffer := by
  funext part
  rw [output, alike, output]

/-- A part that writes nothing leaves no trace. -/
theorem writeFrom_filter (wrote : Bool) (parts : List MapperPart) (buffer : Buffer) :
    writeFrom context table wrote (parts.filter (output context table buffer · ≠ "")) buffer =
      writeFrom context table wrote parts buffer := by
  induction parts generalizing wrote buffer with
  | nil => rfl
  | cons part rest ih =>
    by_cases empty : part.output context table buffer = ""
    · rw [List.filter_cons_of_neg (by simpa using empty), writeFrom_cons_of_empty empty, ih]
    · rw [List.filter_cons_of_pos (by simpa using empty), writeFrom_cons_of_filled empty,
        writeFrom_cons_of_filled empty, ← ih true, output_congr (fork_joint wrote buffer _)]

/-- Parts leave what is written already. -/
theorem exists_text_writeFrom (wrote : Bool) (parts : List MapperPart) (buffer : Buffer) :
    ∃ more, (writeFrom context table wrote parts buffer).text = buffer.text ++ more := by
  induction parts generalizing wrote buffer with
  | nil => exact ⟨"", by simp [writeFrom]⟩
  | cons part rest ih =>
    by_cases empty : part.output context table buffer = ""
    · rw [writeFrom_cons_of_empty empty]
      exact ih wrote buffer
    · obtain ⟨pieces, spliced⟩ : ∃ pieces, (joint wrote buffer).write
          (.splice (part.output context table buffer)) = buffer.writeAll pieces := by
        cases wrote with
        | false => exact ⟨[.splice _], rfl⟩
        | true => exact ⟨[.blankLine, .splice _], rfl⟩
      obtain ⟨own, written⟩ := buffer.exists_text_writeAll pieces
      obtain ⟨more, later⟩ := ih true (buffer.writeAll pieces)
      refine ⟨own ++ more, ?_⟩
      rw [writeFrom_cons_of_filled empty, spliced, later, written, String.append_assoc]

/-- An output that ends its line is spliced in at a line start, or behind an empty line. -/
theorem write_joint {wrote : Bool} {s : String} (filled : s ≠ "") (ended : EndsLine s)
    (start : wrote = true → buffer.atLineStart = true) :
    (joint wrote buffer).write (.splice s) = { buffer with
      atLineStart := true
      text := buffer.text ++ ((if wrote then "\n" else "") ++ s) } := by
  have last : (s.toList.getLast? == some '\n') = true :=
    beq_iff_eq.mpr (or_iff_right filled |>.mp ended)
  rw [Buffer.write_splice _ filled, last, joint]
  cases wrote with
  | false => simp
  | true => simp [Buffer.write_blankLine, start rfl, String.append_assoc]

/-- The outputs of parts that end their lines, one behind the other; between two of them a line is left
empty, and before the first if something has been written already. -/
theorem writeFrom_eq (wrote : Bool) (parts : List MapperPart) (buffer : Buffer)
    (start : wrote = true → buffer.atLineStart = true)
    (ended : ∀ part ∈ parts, EndsLine (part.output context table buffer)) :
    writeFrom context table wrote parts buffer = { buffer with
      atLineStart := buffer.atLineStart || !(outputs context table buffer parts).isEmpty
      text := buffer.text ++ if wrote then
          String.join ((outputs context table buffer parts).map ("\n" ++ ·))
        else Text.joinWith "\n" (outputs context table buffer parts) } := by
  induction parts generalizing wrote buffer with
  | nil => cases wrote <;> simp [writeFrom, outputs, Text.joinWith]
  | cons part rest ih =>
    obtain ⟨own, others⟩ := List.forall_mem_cons.mp ended
    by_cases empty : part.output context table buffer = ""
    · rw [writeFrom_cons_of_empty empty, outputs_cons_of_empty empty, ih wrote buffer start others]
    · have same : output context table _ = output context table buffer :=
        output_congr (fork_joint wrote buffer (part.output context table buffer))
      have spliced := write_joint empty own start
      rw [writeFrom_cons_of_filled empty, outputs_cons_of_filled empty,
        ih true _ (fun _ => by rw [spliced]) (by rwa [same]), outputs, same, ← outputs, spliced]
      cases wrote with
      | false => simp [Text.joinWith_cons, String.append_assoc]
      | true => simp [String.append_assoc]

end MapperPart

open MapperPart (output outputs) in
/-- Splicing in what a fork has written at a line start leaves text and line state of writing in place,
and the level of before, which is that of writing in place exactly if the braces of the tokens come out
even. So parts that end at a line start append what they write at the level of the buffer, with an empty
line between neighbours, the level stays, and parts that write nothing leave no trace. -/
theorem forked_emission :
    (∀ (buffer : Buffer) (pieces : List Piece), buffer.atLineStart = true →
      (∀ piece ∈ pieces, piece.StaysInLine) →
        let spliced := buffer.write (.splice (buffer.fork.writeAll pieces).text)
        let direct := buffer.writeAll pieces
        spliced.text = direct.text ∧ spliced.atLineStart = direct.atLineStart ∧
          spliced.indent = direct.indent ∧
          (spliced.level = direct.level ↔ levelAfter buffer.level pieces = buffer.level)) ∧
    ∀ (context : MapperContext) (table : Table) (parts : List MapperPart) (buffer : Buffer),
      (∀ part ∈ parts, (buffer.fork.writeAll (part.layout context table)).atLineStart = true) →
        let after := MapperPart.writeAll context table parts buffer
        after.text = buffer.text ++ Text.joinWith "\n" (outputs context table buffer parts) ∧
          (∀ own ∈ outputs context table buffer parts, own.toList.getLast? = some '\n') ∧
          after.level = buffer.level ∧ after.indent = buffer.indent ∧
          (after.atLineStart = true ↔
            buffer.atLineStart = true ∨ outputs context table buffer parts ≠ []) ∧
          after = MapperPart.writeAll context table
            (parts.filter (output context table buffer · ≠ "")) buffer := by
  refine ⟨fun buffer pieces start inLine => ?_, fun context table parts buffer lineStarts => ?_⟩
  · dsimp only
    rw [Buffer.splice_writeAll_fork start inLine, Buffer.level_writeAll]
    exact ⟨rfl, rfl, rfl, eq_comm⟩
  · have ended : ∀ part ∈ parts, EndsLine (part.output context table buffer) := fun part member =>
      Buffer.endsLine_writeAll (fun _ => .inl rfl) _ (lineStarts part member)
    have last : ∀ own ∈ outputs context table buffer parts, own.toList.getLast? = some '\n' := by
      intro own member
      obtain ⟨written, filled⟩ := List.mem_filter.mp member
      obtain ⟨part, inParts, rfl⟩ := List.mem_map.mp written
      exact (ended part inParts).resolve_left (of_decide_eq_true filled)
    dsimp only
    rw [MapperPart.writeAll, MapperPart.writeAll, MapperPart.writeFrom_filter,
      MapperPart.writeFrom_eq false parts buffer nofun ended]
    refine ⟨rfl, last, rfl, rfl, ?_, rfl⟩
    simp

/-- A block with a literal that ends in a brace, and three parts of which one writes nothing. -/
theorem forked_block_emission :
    let buffer : Buffer := { indent := .spaces 2, level := 1, text := "class A \x7b\n" }
    let block : List Piece := [.token "void go() \x7b", .lineEnd, .literal "\"\x7d\"", .token ";",
      .blankLine, .token "\x7d", .lineEnd]
    let mark (text : String) : MapperPart :=
      ⟨"mark", fun _ _ => if text = "" then [] else Source.line text⟩
    let parts := [mark "// a", mark "", mark "// b"]
    let table : Table := .ofColumns ⟨"entities", "model"⟩ "test_entity" "model.TestEntity" true []
    buffer.atLineStart = true ∧ (∀ piece ∈ block, piece.StaysInLine) ∧
      (buffer.write (.splice (buffer.fork.writeAll block).text)).level =
        (buffer.writeAll block).level ∧
      (∀ part ∈ parts, (buffer.fork.writeAll (part.layout {} table)).atLineStart = true) ∧
      (MapperPart.writeAll {} table parts buffer).text =
        "class A \x7b\n" ++ Text.joinWith "\n" ["  // a\n", "  // b\n"] := by
  intro buffer block mark parts table
  obtain ⟨direct, chain⟩ := forked_emission
  have inLine : ∀ piece ∈ block, piece.StaysInLine := by
    simp [block, Piece.StaysInLine]
  have lineStarts : ∀ part ∈ parts,
      (buffer.fork.writeAll (part.layout {} table)).atLineStart = true := by
    simp only [parts, mark, buffer]
    decide
  refine ⟨rfl, inLine, (direct buffer block rfl inLine).2.2.2.mpr (by decide), lineStarts, ?_⟩
  exact (chain {} table parts buffer lineStarts).1

end EntityMapper
