/-!
# Separated text

Cutting text at a separator and joining it again. Cutting never yields the empty list: text
without the separator is its own only segment.
-/
namespace EntityMapper.Text

/-- The stretches between separators, empty ones included. -/
def segments (separator : Char) (s : String) : List String :=
  (s.toList.splitOn separator).map String.ofList

/-- The lines of text behind which one more line end stands. A carriage return in front of a line
end belongs to it. -/
def lines (s : String) : List String :=
  (s.toList.splitOn '\n').map fun line =>
    String.ofList (if line.getLast? = some '\r' then line.dropLast else line)

/-- The parts with `separator` between neighbours. -/
def joinWith (separator : String) : List String → String
  | [] => ""
  | [part] => part
  | part :: rest => part ++ separator ++ joinWith separator rest

/-- What stands before the first separator; all of it when there is none. -/
def beforeFirst (separator : Char) (cs : List Char) : List Char :=
  cs.takeWhile (· != separator)

/-- What stands after the last separator; all of it when there is none. -/
def afterLast (separator : Char) (cs : List Char) : List Char :=
  (cs.reverse.takeWhile (· != separator)).reverse

/-- What stands before the last separator; nothing when there is none. -/
def beforeLast (separator : Char) (cs : List Char) : List Char :=
  ((cs.reverse.dropWhile (· != separator)).drop 1).reverse

/-- What follows `start` in `cs`, when `cs` begins with it. -/
def afterStart? : (start cs : List Char) → Option (List Char)
  | [], cs => some cs
  | _ :: _, [] => none
  | s :: start, c :: cs => if s = c then afterStart? start cs else none

end EntityMapper.Text
