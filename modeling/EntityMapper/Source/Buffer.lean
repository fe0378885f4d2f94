/-!
# Source text under construction

An append-only buffer that indents lines by nesting. Nesting follows the braces of the tokens
written: a token that starts with `}` closes a level before it is written, one that ends with an
opening brace opens a level after. Indentation is written with the first token of a line, so
empty lines stay empty. Literal tokens are indented but not tracked; spliced text is neither.
-/
namespace EntityMapper.Source

inductive Indent where
  | spaces (width : Nat)
  | tab
  deriving DecidableEq, Repr

namespace Indent

/-- The margin of a line at some level. -/
def margin : Indent → Nat → String
  | spaces width, level => String.ofList (List.replicate (width * level) ' ')
  | tab, level => String.ofList (List.replicate level '\t')

end Indent

structure Buffer where
  indent : Indent
  level : Nat := 0
  atLineStart : Bool := true
  text : String := ""
  deriving DecidableEq, Repr

/-- One step of writing. -/
inductive Piece where
  /-- A tracked token. -/
  | token (s : String)
  | literal (s : String)
  /-- Text taken over as it is. -/
  | splice (s : String)
  | lineEnd
  /-- Ends the line if one is open, then leaves a line empty. -/
  | blankLine
  deriving DecidableEq, Repr

def opensBlock (s : String) : Bool :=
  s.toList.getLast? == some '\x7b'

def closesBlock (s : String) : Bool :=
  s.toList.head? == some '\x7d'

namespace Buffer

def new (indent : Indent) : Buffer where
  indent := indent

/-- Four spaces a level. -/
def java : Buffer :=
  new (.spaces 4)

def isEmpty (buffer : Buffer) : Bool :=
  buffer.text == ""

/-- Writes the margin if a line is to be started. -/
def startLine (buffer : Buffer) : Buffer :=
  if buffer.atLineStart then
    { buffer with
      text := buffer.text ++ buffer.indent.margin buffer.level
      atLineStart := false }
  else buffer

def append (buffer : Buffer) (s : String) : Buffer :=
  { buffer with text := buffer.text ++ s }

def endLine (buffer : Buffer) : Buffer :=
  { buffer with text := buffer.text ++ "\n", atLineStart := true }

def write (buffer : Buffer) : Piece → Buffer
  | .token s =>
    if s = "" then buffer
    else
      let level := if closesBlock s then buffer.level - 1 else buffer.level
      let written := ({ buffer with level := level }.startLine).append s
      { written with level := if opensBlock s then level + 1 else level }
  | .literal s => if s = "" then buffer else buffer.startLine.append s
  | .splice s =>
    if s = "" then buffer
    else { buffer.append s with atLineStart := s.toList.getLast? == some '\n' }
  | .lineEnd => buffer.endLine
  | .blankLine => (if buffer.atLineStart then buffer else buffer.endLine).endLine

def writeAll (buffer : Buffer) (pieces : List Piece) : Buffer :=
  pieces.foldl write buffer

/-- An empty buffer at the level of this one. -/
def fork (buffer : Buffer) : Buffer :=
  { new buffer.indent with level := buffer.level }

end Buffer

/-- A line holding one tracked token. -/
def line (s : String) : List Piece :=
  [.token s, .lineEnd]

/-- The pieces written from the top of a source file. -/
def render (pieces : List Piece) : String :=
  (Buffer.java.writeAll pieces).text

end EntityMapper.Source
