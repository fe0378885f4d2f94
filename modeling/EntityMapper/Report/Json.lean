import EntityMapper.Text.Segments

/-!
# JSON text

Values as indented JSON: two blanks a level, one member or item a line, and nothing between the
brackets of empty ones. Strings escape the quote, the backslash and the controls below U+0020.
-/
namespace EntityMapper

inductive Json where
  | null
  | flag (b : Bool)
  | text (s : String)
  | array (items : List Json)
  | object (members : List (String × Json))
  deriving Repr

namespace Json

def hexDigit (n : Nat) : Char :=
  if n < 10 then Char.ofNat (48 + n) else Char.ofNat (87 + n)

def escapeChar (c : Char) : List Char :=
  if c = '"' then ['\\', '"']
  else if c = '\\' then ['\\', '\\']
  else if 32 ≤ c.toNat then [c]
  else if c.toNat = 8 then ['\\', 'b']
  else if c.toNat = 9 then ['\\', 't']
  else if c.toNat = 10 then ['\\', 'n']
  else if c.toNat = 12 then ['\\', 'f']
  else if c.toNat = 13 then ['\\', 'r']
  else ['\\', 'u', '0', '0', hexDigit (c.toNat / 16), hexDigit (c.toNat % 16)]

def quoted (s : String) : String :=
  "\"" ++ String.ofList (s.toList.flatMap escapeChar) ++ "\""

/-- A line break and the margin of a level. -/
def lineBreak (level : Nat) : String :=
  "\n" ++ String.ofList (List.replicate (2 * level) ' ')

mutual

/-- The text of a value whose first line is indented already. -/
def pretty (level : Nat) : Json → String
  | null => "null"
  | flag b => if b then "true" else "false"
  | text s => quoted s
  | array [] => "[]"
  | array (first :: rest) =>
    "[" ++ lineBreak (level + 1) ++ pretty (level + 1) first ++ prettyItems (level + 1) rest
      ++ lineBreak level ++ "]"
  | object [] => "\x7b\x7d"
  | object ((name, value) :: rest) =>
    "\x7b" ++ lineBreak (level + 1) ++ quoted name ++ ": " ++ pretty (level + 1) value
      ++ prettyMembers (level + 1) rest ++ lineBreak level ++ "\x7d"

/-- The items after the first. -/
def prettyItems (level : Nat) : List Json → String
  | [] => ""
  | item :: rest => "," ++ lineBreak level ++ pretty level item ++ prettyItems level rest

/-- The members after the first. -/
def prettyMembers (level : Nat) : List (String × Json) → String
  | [] => ""
  | (name, value) :: rest =>
    "," ++ lineBreak level ++ quoted name ++ ": " ++ pretty level value
      ++ prettyMembers level rest

end

def render (value : Json) : String :=
  pretty 0 value

def optional {α : Type} (encode : α → Json) : Option α → Json
  | some a => encode a
  | none => null

end Json

end EntityMapper
