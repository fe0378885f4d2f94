import EntityMapper.Toml.Scalar
import EntityMapper.Toml.Token
import EntityMapper.Toml.Value

/-!
# TOML documents

Documents in the form of TOML 1.1, where inline tables may run over several lines and end in a
comma. A document that breaks any rule has no value; which rule is not told.
-/
namespace EntityMapper.Toml

/-- Values may be nested this deep, and keys may have this many names before the last one. -/
def deepest : Nat := 80

abbrev Tokens := List Token

def dropBlanks : Tokens → Tokens
  | .blank _ :: rest => dropBlanks rest
  | tokens => tokens

/-- Blanks and line ends, as between the items of arrays and inline tables. -/
def dropSpace : Tokens → Tokens
  | .blank _ :: rest => dropSpace rest
  | .lineEnd :: rest => dropSpace rest
  | tokens => tokens

def isKeyChar (c : Char) : Bool :=
  c.isAlphanum || c == '_' || c == '-'

/-- One name of a key: a bare key or a string in one line. -/
def simpleKey? : Token → Option String
  | .bare word => if word.all isKeyChar then some (String.ofList word) else none
  | .string false name => some name
  | _ => none

/-- The names of a dotted key after the first one, and what follows the key. Behind a point a name
has to come. -/
def restOfKey : (afterPoint : Bool) → Tokens → Option (List String × Tokens)
  | afterPoint, .blank _ :: rest => restOfKey afterPoint rest
  | false, .point :: rest => restOfKey true rest
  | false, rest => some ([], rest)
  | true, token :: rest => do
    let name ← simpleKey? token
    let (names, rest) ← restOfKey false rest
    return (name :: names, rest)
  | true, [] => none

/-- A dotted key, split into the names before the last one and the last one, and what follows it
and its blanks. -/
def key (tokens : Tokens) : Option (List String × String × Tokens) :=
  match tokens with
  | [] => none
  | token :: rest => do
    let first ← simpleKey? token
    let (more, rest) ← restOfKey false rest
    let names := first :: more
    let last ← names.getLast?
    if deepest < more.length then none
    return (names.dropLast, last, rest)

/-- The text that a number or date is written with: bare words and points, and blanks that lead
from one word to the next. -/
def bareRun : Tokens → List Char × Tokens
  | .bare word :: rest =>
    let (more, rest) := bareRun rest
    (word ++ more, rest)
  | .point :: rest =>
    let (more, rest) := bareRun rest
    ('.' :: more, rest)
  | .blank text :: .bare word :: rest =>
    let (more, rest) := bareRun rest
    (text ++ word ++ more, rest)
  | tokens => ([], tokens)

/-- The value of a bare text. -/
def bareValue (tokens : Tokens) : Option (Value × Tokens) :=
  let (text, rest) := bareRun tokens
  if text = "true".toList then some (.flag true, rest)
  else if text = "false".toList then some (.flag false, rest)
  else if isScalar text then some (.scalar, rest)
  else none

mutual

/-- A value at the head of the tokens, with `room` for arrays and inline tables in each other. -/
def value : (fuel room : Nat) → Tokens → Option (Value × Tokens)
  | 0, _, _ => none
  | fuel + 1, room, tokens =>
    match room, tokens with
    | _, .string _ s :: rest => some (.text s, rest)
    | room + 1, .openBracket :: rest => do
      let (items, rest) ← items fuel room (dropSpace rest)
      return (.array items, rest)
    | room + 1, .openBrace :: rest => do
      let (members, rest) ← inlineMembers fuel room [] (dropSpace rest)
      return ((Node.table .defined members).value, rest)
    | _, tokens => bareValue tokens

/-- The items of an array up to its end. -/
def items : (fuel room : Nat) → Tokens → Option (List Value × Tokens)
  | 0, _, _ => none
  | fuel + 1, room, tokens =>
    match tokens with
    | .closeBracket :: rest => some ([], rest)
    | _ => do
      let (item, rest) ← value fuel room tokens
      match dropSpace rest with
      | .comma :: rest =>
        let (more, rest) ← items fuel room (dropSpace rest)
        return (item :: more, rest)
      | .closeBracket :: rest => return ([item], rest)
      | _ => none

/-- The members of an inline table up to its end, added to those read before. Line ends may stand
around whole keys and values, but not inside a dotted key. -/
def inlineMembers : (fuel room : Nat) → Members → Tokens → Option (Members × Tokens)
  | 0, _, _, _ => none
  | fuel + 1, room, members, tokens =>
    match tokens with
    | .closeBrace :: rest => some (members, rest)
    | _ => do
      let (path, name, rest) ← key tokens
      match dropSpace rest with
      | .equals :: rest =>
        let (item, rest) ← value fuel room (dropSpace rest)
        let members ← assign path name item members
        match dropSpace rest with
        | .comma :: rest => inlineMembers fuel room members (dropSpace rest)
        | .closeBrace :: rest => return (members, rest)
        | _ => none
      | _ => none

end

/-- One line with a key and its value. -/
structure Assignment where
  path : List String
  name : String
  value : Value
  deriving Repr

/-- A header with the lines below it. -/
structure Section where
  isArray : Bool
  path : List String
  name : String
  assignments : List Assignment
  deriving Repr

/-- What may stand behind a header or a value: blanks up to the end of the line. -/
def endOfLine (tokens : Tokens) : Option Tokens :=
  match dropBlanks tokens with
  | [] => some []
  | .lineEnd :: rest => some rest
  | _ => none

/-- A header from behind its opening brackets to the end of its line. -/
def header (isArray : Bool) (tokens : Tokens) : Option (List String × String × Tokens) := do
  let (path, name, rest) ← key (dropBlanks tokens)
  match isArray, rest with
  | false, .closeBracket :: rest => return (path, name, ← endOfLine rest)
  | true, .closeBracket :: .closeBracket :: rest => return (path, name, ← endOfLine rest)
  | _, _ => none

/-- The lines before the first header, and the sections. Every round reads at least one token, so
fuel above the number of tokens is enough. -/
def lines : (fuel : Nat) → Tokens → Option (List Assignment × List Section)
  | 0, _ => none
  | fuel + 1, tokens =>
    match dropSpace tokens with
    | [] => some ([], [])
    | .openBracket :: .openBracket :: rest => do
      let (path, name, rest) ← header true rest
      let (assignments, sections) ← lines fuel rest
      return ([], ⟨true, path, name, assignments⟩ :: sections)
    | .openBracket :: rest => do
      let (path, name, rest) ← header false rest
      let (assignments, sections) ← lines fuel rest
      return ([], ⟨false, path, name, assignments⟩ :: sections)
    | tokens => do
      let (path, name, rest) ← key tokens
      match rest with
      | .equals :: rest =>
        let (item, rest) ← value (2 * fuel + 2) deepest (dropBlanks rest)
        let (assignments, sections) ← lines fuel (← endOfLine rest)
        return (⟨path, name, item⟩ :: assignments, sections)
      | _ => none

def assignAll (assignments : List Assignment) (members : Members) : Option Members :=
  assignments.foldlM (fun members line => assign line.path line.name line.value members) members

def addSection (root : Members) (part : Section) : Option Members :=
  if part.isArray then appendTable part.path part.name (assignAll part.assignments) root
  else defineTable part.path part.name (assignAll part.assignments) root

/-- The table a document describes. -/
def parse (source : String) : Option Value := do
  let tokens ← scan source.toList
  let (assignments, sections) ← lines (tokens.length + 1) tokens
  let root ← assignAll assignments []
  let root ← sections.foldlM addSection root
  return (Node.table .defined root).value

end EntityMapper.Toml
