import EntityMapper.Text.Segments

/-!
# Tokens of TOML documents

Text is cut into punctuation, blanks, line ends, strings and bare words. Strings are decoded on
the way. Comments stand for nothing and are left out. A bare word is any stretch that begins with
another character and goes on, quotes included, up to punctuation, a blank, a comment or a line
end; whether it is a key or a value is decided where it stands, and a point always stands alone.
-/
namespace EntityMapper.Toml

inductive Token where
  | point | equals | comma
  | openBracket | closeBracket | openBrace | closeBrace
  /-- A stretch of blanks and tabs. -/
  | blank (text : List Char)
  | lineEnd
  /-- A decoded string; strings over several lines are no keys. -/
  | string (multiline : Bool) (value : String)
  | bare (word : List Char)
  deriving DecidableEq, Repr

/-- Controls other than the tab may not stand in comments and strings. -/
def isForbidden (c : Char) : Bool :=
  (decide (c.toNat < 32) && c != '\t') || c.toNat == 127

def hexValue? (c : Char) : Option Nat :=
  if c.isDigit then some (c.toNat - '0'.toNat)
  else if 'a' ≤ c ∧ c ≤ 'f' then some (c.toNat - 'a'.toNat + 10)
  else if 'A' ≤ c ∧ c ≤ 'F' then some (c.toNat - 'A'.toNat + 10)
  else none

/-- The character whose code the hexadecimal digits write; surrogates are none. -/
def charOfHex? (digits : List Char) : Option Char := do
  let values ← digits.mapM hexValue?
  let code := values.foldl (fun acc digit => acc * 16 + digit) 0
  if code.isValidChar then some (Char.ofNat code) else none

/-- The escapes of one character. -/
def simpleEscape? : Char → Option Char
  | 'b' => some '\x08'
  | 't' => some '\t'
  | 'n' => some '\n'
  | 'f' => some '\x0c'
  | 'r' => some '\r'
  | 'e' => some '\x1b'
  | '"' => some '"'
  | '\\' => some '\\'
  | _ => none

/-- How many hexadecimal digits follow the letter of a numeric escape. -/
def hexEscapeWidth? : Char → Option Nat
  | 'x' => some 2
  | 'u' => some 4
  | 'U' => some 8
  | _ => none

/-- What the scanner is in the middle of. Text read so far is reversed. -/
inductive Mode where
  | plain
  | comment
  | word (read : List Char)
  | blanks (read : List Char)
  /-- Behind a carriage return between tokens. -/
  | carriage
  /-- Behind one or two quotes that open a string. -/
  | opened (quote : Char) (quotes : Nat)
  /-- Behind three opening quotes; a line end here is no part of the string. -/
  | firstLine (quote : Char)
  | firstCarriage (quote : Char)
  | body (quote : Char) (multiline : Bool) (read : List Char)
  | bodyCarriage (quote : Char) (read : List Char)
  /-- Behind quotes that may close a string over several lines. -/
  | closing (quote : Char) (read : List Char) (quotes : Nat)
  | escape (multiline : Bool) (read : List Char)
  /-- In a numeric escape that lacks `missing` digits. -/
  | digits (multiline : Bool) (read : List Char) (missing : Nat) (seen : List Char)
  /-- Behind a backslash and blanks that have to lead to the end of the line. -/
  | toLineEnd (read : List Char)
  /-- Behind such a line end, skipping to the next text. -/
  | toText (read : List Char)
  | skippedCarriage (read : List Char)
  deriving DecidableEq, Repr

def punctuation? : Char → Option Token
  | '.' => some .point
  | '=' => some .equals
  | ',' => some .comma
  | '[' => some .openBracket
  | ']' => some .closeBracket
  | '\x7b' => some .openBrace
  | '\x7d' => some .closeBrace
  | _ => none

/-- The tokens a step completes and the mode it leads to. -/
abbrev Step := Option (List Token × Mode)

/-- A character between tokens. -/
def plainStep (c : Char) : Step :=
  match punctuation? c with
  | some token => some ([token], .plain)
  | none =>
    if c = '"' ∨ c = '\'' then some ([], .opened c 1)
    else if c = '#' then some ([], .comment)
    else if c = '\n' then some ([.lineEnd], .plain)
    else if c = '\r' then some ([], .carriage)
    else if c = ' ' ∨ c = '\t' then some ([], .blanks [c])
    else some ([], .word [c])

/-- Whether a bare word that has begun goes on with the character. -/
def continuesWord (c : Char) : Bool :=
  (punctuation? c).isNone && c != '#' && c != ' ' && c != '\t' && c != '\n' && c != '\r'

/-- The token `done`, completed by the character behind it. -/
def completed (done : Token) (c : Char) : Step :=
  (plainStep c).map fun (tokens, mode) => (done :: tokens, mode)

/-- A character in a string. -/
def bodyStep (quote : Char) (multiline : Bool) (read : List Char) (c : Char) : Step :=
  if c = quote then
    if multiline then some ([], .closing quote read 1)
    else some ([.string false (String.ofList read.reverse)], .plain)
  else if c = '\\' ∧ quote = '"' then some ([], .escape multiline read)
  else if c = '\n' ∧ multiline then some ([], .body quote true (c :: read))
  else if c = '\r' ∧ multiline then some ([], .bodyCarriage quote read)
  else if isForbidden c then none
  else some ([], .body quote multiline (c :: read))

/-- The string that ends with `quotes` quotes, the last three of which close it. -/
def closedString (quote : Char) (read : List Char) (quotes : Nat) : Token :=
  .string true (String.ofList (List.replicate (quotes - 3) quote ++ read).reverse)

/-- The character behind a backslash. -/
def escapeStep (multiline : Bool) (read : List Char) (c : Char) : Step :=
  match simpleEscape? c, hexEscapeWidth? c with
  | some decoded, _ => some ([], .body '"' multiline (decoded :: read))
  | none, some width => some ([], .digits multiline read width [])
  | none, none =>
    if !multiline then none
    else if c = ' ' ∨ c = '\t' then some ([], .toLineEnd read)
    else if c = '\n' then some ([], .toText read)
    else if c = '\r' then some ([], .skippedCarriage read)
    else none

def step : Mode → Char → Step
  | .plain, c => plainStep c
  | .comment, c =>
    if c = '\n' then some ([.lineEnd], .plain)
    else if c = '\r' then some ([], .carriage)
    else if isForbidden c then none
    else some ([], .comment)
  | .word read, c =>
    if continuesWord c then some ([], .word (c :: read)) else completed (.bare read.reverse) c
  | .blanks read, c =>
    if c = ' ' ∨ c = '\t' then some ([], .blanks (c :: read))
    else completed (.blank read.reverse) c
  | .carriage, c => if c = '\n' then some ([.lineEnd], .plain) else none
  | .opened quote quotes, c =>
    if c = quote then
      if quotes < 2 then some ([], .opened quote (quotes + 1)) else some ([], .firstLine quote)
    else if quotes < 2 then bodyStep quote false [] c
    else completed (.string false "") c
  | .firstLine quote, c =>
    if c = '\n' then some ([], .body quote true [])
    else if c = '\r' then some ([], .firstCarriage quote)
    else bodyStep quote true [] c
  | .firstCarriage quote, c => if c = '\n' then some ([], .body quote true []) else none
  | .body quote multiline read, c => bodyStep quote multiline read c
  | .bodyCarriage quote read, c =>
    if c = '\n' then some ([], .body quote true ('\n' :: '\r' :: read)) else none
  | .closing quote read quotes, c =>
    if c = quote then
      if quotes < 5 then some ([], .closing quote read (quotes + 1)) else none
    else if quotes < 3 then bodyStep quote true (List.replicate quotes quote ++ read) c
    else completed (closedString quote read quotes) c
  | .escape multiline read, c => escapeStep multiline read c
  | .digits multiline read missing seen, c =>
    if missing ≤ 1 then
      (charOfHex? (c :: seen).reverse).map fun decoded =>
        ([], .body '"' multiline (decoded :: read))
    else some ([], .digits multiline read (missing - 1) (c :: seen))
  | .toLineEnd read, c =>
    if c = ' ' ∨ c = '\t' then some ([], .toLineEnd read)
    else if c = '\n' then some ([], .toText read)
    else if c = '\r' then some ([], .skippedCarriage read)
    else none
  | .toText read, c =>
    if c = ' ' ∨ c = '\t' ∨ c = '\n' then some ([], .toText read)
    else if c = '\r' then some ([], .skippedCarriage read)
    else bodyStep '"' true read c
  | .skippedCarriage read, c => if c = '\n' then some ([], .toText read) else none

/-- The tokens the end of the text completes, where it may end. -/
def finish : Mode → Option (List Token)
  | .plain => some []
  | .comment => some []
  | .word read => some [.bare read.reverse]
  | .blanks read => some [.blank read.reverse]
  | .opened _ quotes => if quotes < 2 then none else some [.string false ""]
  | .closing quote read quotes =>
    if quotes < 3 then none else some [closedString quote read quotes]
  | _ => none

def scanFrom : Mode → List Char → Option (List Token)
  | mode, [] => finish mode
  | mode, c :: rest => do
    let (tokens, mode) ← step mode c
    return tokens ++ (← scanFrom mode rest)

/-- The tokens of a document; a byte order mark in front is skipped. -/
def scan (source : List Char) : Option (List Token) :=
  match source with
  | '\ufeff' :: rest => scanFrom .plain rest
  | _ => scanFrom .plain source

end EntityMapper.Toml
