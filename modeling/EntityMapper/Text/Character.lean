import EntityMapper.Text.CaseTable

/-!
# Characters: classes and case

The five character classes that identifiers, naming and type literals are decided by, and the
full case mappings. All of them follow the Unicode properties; code points below U+0080 are
decided by the ASCII rules those properties agree with, so only other text reads a table.
-/
namespace EntityMapper.Text

/-- First code point that the ASCII rules do not decide. -/
def asciiLimit : Nat := 128

/-- Has the property Alphabetic. -/
def isAlphabetic (c : Char) : Bool :=
  if c.toNat < asciiLimit then c.isAlpha else alphabeticRanges.any (·.contains c.toNat)

/-- Is a decimal digit, a letter number or another number. -/
def isNumeric (c : Char) : Bool :=
  if c.toNat < asciiLimit then c.isDigit else numberRanges.any (·.contains c.toNat)

def isAlphanumeric (c : Char) : Bool :=
  isAlphabetic c || isNumeric c

/-- Has the property Uppercase; title case letters have not. -/
def isUppercase (c : Char) : Bool :=
  if c.toNat < asciiLimit then c.isUpper else uppercaseRanges.any (·.contains c.toNat)

/-- Has the property Lowercase, which some letters without case mapping have too. -/
def isLowercase (c : Char) : Bool :=
  if c.toNat < asciiLimit then c.isLower else lowercaseRanges.any (·.contains c.toNat)

/-- Has the property White_Space: in ASCII the blank and the five controls from tab to return. -/
def isBlank (c : Char) : Bool :=
  if c.toNat < asciiLimit then c.toNat == 32 || (decide (9 ≤ c.toNat) && decide (c.toNat ≤ 13))
  else blankRanges.any (·.contains c.toNat)

/-- An expansion wins over a shift; what neither table lists maps to itself. -/
def mapCase (expansions : List (Nat × List Nat)) (shifts : List CodeShift) (c : Char) : List Char :=
  match expansions.lookup c.toNat with
  | some codes => codes.map Char.ofNat
  | none =>
    match shifts.find? (·.range.contains c.toNat) with
    | some shift => [Char.ofNat (c.toNat + shift.offset).toNat]
    | none => [c]

/-- The upper case of one character, whatever stands around it. -/
def upperCase (c : Char) : List Char :=
  if c.toNat < asciiLimit then [c.toUpper] else mapCase upperExpansions upperShifts c

/-- The lower case of one character, whatever stands around it. -/
def lowerCase (c : Char) : List Char :=
  if c.toNat < asciiLimit then [c.toLower] else mapCase lowerExpansions lowerShifts c

/-- Upper case, character by character. -/
def upper (s : String) : String :=
  String.ofList (s.toList.flatMap upperCase)

/-- Upper case of the ASCII letters only. -/
def asciiUpper (s : String) : String :=
  String.ofList (s.toList.map Char.toUpper)

/-- Lower case of the ASCII letters only. -/
def asciiLower (s : String) : String :=
  String.ofList (s.toList.map Char.toLower)

end EntityMapper.Text
