import EntityMapper.Text.Character

/-!
# Naming strategies

A naming strategy joins raw identifier fragments (class names, field names, the fields around an
embedded one) into one normalised identifier. The built-in strategies write words separated by
`_` in one letter case. A word starts at an upper-case letter that follows a lower-case one, at
the last upper-case letter of a run before a lower-case one, and after digits only when the
letter before the digits is lower-case.
-/
namespace EntityMapper

structure NamingStrategy where
  name : String
  resolve : List String → String

/-- Normalises a single name. -/
def NamingStrategy.resolveOne (strategy : NamingStrategy) (name : String) : String :=
  strategy.resolve [name]

/-- Letter case of the names a built-in strategy writes. -/
inductive LetterCase where
  | lower | upper
  deriving DecidableEq, Repr

namespace LetterCase

def apply : LetterCase → Char → List Char
  | .lower => Text.lowerCase
  | .upper => Text.upperCase

def strategyName : LetterCase → String
  | .lower => "snake_case"
  | .upper => "upper_snake_case"

/-- Whether an upper-case letter starts a word, given the characters before it, nearest first,
and those after it. -/
def startsWord : List Char → List Char → Bool
  | [], _ => false
  | previous :: before, after =>
    if previous = '_' then false
    else if previous.isDigit then (before.find? (!·.isDigit)).any Text.isLowercase
    else if Text.isLowercase previous then true
    else Text.isUppercase previous && after.head?.any Text.isLowercase

/-- One fragment, with `before` already read, nearest character first. -/
def words (case : LetterCase) (before : List Char) : List Char → List Char
  | [] => []
  | c :: after =>
    (if Text.isUppercase c && startsWord before after then ['_'] else [])
      ++ case.apply c ++ words case (c :: before) after

/-- Empty fragments leave no trace; the others are joined by one `_`. -/
def join (case : LetterCase) (fragments : List (List Char)) : List Char :=
  List.intercalate ['_'] ((fragments.filter (· ≠ [])).map (case.words []))

/-- The built-in strategy that writes this case. -/
def snake (case : LetterCase) : NamingStrategy where
  name := case.strategyName
  resolve fragments := String.ofList (case.join (fragments.map String.toList))

end LetterCase

/-- The form in which tables, columns and converters appear as constants in emitted sources. -/
def constantName (name : String) : String :=
  LetterCase.upper.snake.resolveOne name

end EntityMapper
