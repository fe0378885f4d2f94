import EntityMapper.Text.Segments

/-!
# Numbers and dates of TOML

Which bare texts are numbers, dates or times. Their values are never needed, only whether a text
is one of them. A text is taken for what it begins as: digits followed by a dash or a colon begin
a date or a time, other digits a number, of which an underscore then only has to stand between
digits.
-/
namespace EntityMapper.Toml

def dropSign : List Char → List Char
  | '+' :: rest => rest
  | '-' :: rest => rest
  | word => word

def isHexDigit (c : Char) : Bool :=
  c.isDigit || (decide ('a' ≤ c) && decide (c ≤ 'f')) || (decide ('A' ≤ c) && decide (c ≤ 'F'))

def isOctalDigit (c : Char) : Bool :=
  decide ('0' ≤ c) && decide (c ≤ '7')

def isBinaryDigit (c : Char) : Bool :=
  c == '0' || c == '1'

/-- Whether a stretch may stand between an underscore and the next one. -/
def isBetween (isDigit : Char → Bool) (part : List Char) : Bool :=
  part.head?.any isDigit && part.getLast?.any isDigit

/-- Every underscore stands between two digits, or behind a sign alone. -/
def underscoresFit (isDigit : Char → Bool) (word : List Char) : Bool :=
  match word.splitOn '_' with
  | [] => true
  | [_] => true
  | first :: rest =>
    (first.length == 1 || first.getLast?.any isDigit)
      && rest.dropLast.all (isBetween isDigit)
      && rest.getLast?.any (·.head?.any isDigit)

/-- What follows a base prefix; it may be empty. -/
def isBased (isDigit : Char → Bool) (digits : List Char) : Bool :=
  digits.all (fun c => isDigit c || c == '_') && underscoresFit isDigit digits

/-- The digits and underscores at the head, at least one digit among them, and what follows. -/
def digitRun? (word : List Char) : Option (List Char × List Char) :=
  let run := word.takeWhile fun c => c.isDigit || c == '_'
  if run.any Char.isDigit then some (run, word.drop run.length) else none

/-- A stretch of digits with `mark` in front of it, or nothing. -/
def skipMarked (isMark : Char → Bool) (mayBeSigned : Bool) : List Char → Option (List Char)
  | [] => some []
  | c :: rest =>
    if isMark c then
      (digitRun? (if mayBeSigned then dropSign rest else rest)).map (·.2)
    else some (c :: rest)

/-- Digits, then a point with digits, an exponent, or both. Of several digits in front the first
is no zero. -/
def isFraction (word : List Char) : Bool :=
  match digitRun? word with
  | none => false
  | some (whole, rest) =>
    !(decide (2 ≤ whole.countP Char.isDigit) && whole.head? == some '0')
      && (match (skipMarked (· == '.') false rest).bind
              (skipMarked (fun c => c == 'e' || c == 'E') true) with
          | some [] => true
          | _ => false)

/-- The value of a fixed number of decimal digits. -/
def decimal? (width : Nat) (digits : List Char) : Option Nat :=
  if digits.length = width && digits.all Char.isDigit then
    some (digits.foldl (fun acc c => acc * 10 + (c.toNat - '0'.toNat)) 0)
  else none

def daysIn (year month : Nat) : Nat :=
  if month = 2 then
    if year % 4 = 0 && (year % 100 != 0 || year % 400 = 0) then 29 else 28
  else if month = 4 || month = 6 || month = 9 || month = 11 then 30
  else 31

def isDate (word : List Char) : Bool :=
  match decimal? 4 (word.take 4), decimal? 2 ((word.drop 5).take 2), decimal? 2 (word.drop 8) with
  | some year, some month, some day =>
    word[4]? == some '-' && word[7]? == some '-' && decide (1 ≤ month) && decide (month ≤ 12)
      && decide (1 ≤ day) && decide (day ≤ daysIn year month)
  | _, _, _ => false

/-- Hours and minutes. -/
def isClock (word : List Char) : Bool :=
  match decimal? 2 (word.take 2), decimal? 2 (word.drop 3) with
  | some hour, some minute =>
    word[2]? == some ':' && decide (hour < 24) && decide (minute < 60)
  | _, _ => false

/-- A clock time; seconds, and decimals of them, may be left out. -/
def isTime (word : List Char) : Bool :=
  let seconds := word.drop 5
  isClock (word.take 5)
    && (seconds.isEmpty
      || (seconds.head? == some ':'
        && ((decimal? 2 ((seconds.drop 1).take 2)).any (· ≤ 60))
        && (let decimals := seconds.drop 3
            decimals.isEmpty
              || (decimals.head? == some '.' && !(decimals.drop 1).isEmpty
                && (decimals.drop 1).all Char.isDigit))))

/-- A time with an offset from universal time, or without. -/
def isOffsetTime (word : List Char) : Bool :=
  let time := word.takeWhile fun c => c.isDigit || c == ':' || c == '.'
  let offset := word.drop time.length
  isTime time
    && (offset.isEmpty || offset == ['Z'] || offset == ['z']
      || ((offset.head? == some '+' || offset.head? == some '-') && isClock (offset.drop 1)))

/-- A date, a time, or both with a separator between them. -/
def isDateTime (word : List Char) : Bool :=
  isDate word || isTime word
    || (isDate (word.take 10)
      && (match word.drop 10 with
          | separator :: time =>
            (separator == 'T' || separator == 't' || separator == ' ') && isOffsetTime time
          | [] => false))

/-- Text that begins with `unsigned` digits, whole or behind a sign: a date or time, a fraction or
a whole number. A whole number has no leading zero; behind an underscore its digits are not
looked at. -/
def isDecimal (word unsigned : List Char) : Bool :=
  let rest := unsigned.dropWhile Char.isDigit
  let isWhole := unsigned.head? != some '0'
  match rest with
  | [] => unsigned == ['0'] || (isWhole && !unsigned.isEmpty)
  | c :: _ =>
    if c = '-' ∨ c = ':' then isDateTime word
    else if rest.contains ' ' then false
    else if rest.any (fun c => c == '.' || c == 'e' || c == 'E') then
      isFraction unsigned && underscoresFit Char.isDigit word
    else c == '_' && isWhole && underscoresFit isHexDigit word

/-- A number, a date or a time. Numbers with a base prefix have no sign. -/
def isScalar (word : List Char) : Bool :=
  match word with
  | '0' :: 'x' :: digits => isBased isHexDigit digits
  | '0' :: 'o' :: digits => isBased isOctalDigit digits
  | '0' :: 'b' :: digits => isBased isBinaryDigit digits
  | _ =>
    let unsigned := dropSign word
    unsigned == "inf".toList || unsigned == "nan".toList || isDecimal word unsigned

end EntityMapper.Toml
