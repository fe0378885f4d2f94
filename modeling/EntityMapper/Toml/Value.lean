import EntityMapper.Ascending
import EntityMapper.Entries

/-!
# TOML values

A document is a table of values. Numbers, dates and times are kept as one scalar without value,
since nothing read from documents asks for them. The names of a table are ascending.
-/
namespace EntityMapper.Toml

inductive Value where
  | text (s : String)
  | flag (b : Bool)
  | scalar
  | array (items : List Value)
  | table (members : List (String × Value))
  deriving Inhabited, Repr

/-- How a table under construction came to be, which decides what may still be added to it. -/
inductive Origin where
  /-- By a header of its own, as the document itself, or as an element of an array of tables. -/
  | defined
  /-- As a step on the way to another header. -/
  | implied
  /-- As a step of a dotted key. -/
  | dotted
  deriving DecidableEq, Repr

/-- A value under construction. Complete values cannot be added to. -/
inductive Node where
  | complete (value : Value)
  | table (origin : Origin) (members : List (String × Node))
  /-- An array of tables, latest first. -/
  | tables (elements : List (List (String × Node)))
  deriving Repr

abbrev Members := List (String × Node)

mutual

def Node.value : Node → Value
  | .complete value => value
  | .table _ members => .table (Ascending.ofList (·.1) (memberValues members))
  | .tables elements => .array (elementValues elements).reverse

def memberValues : List (String × Node) → List (String × Value)
  | [] => []
  | (name, node) :: rest => (name, node.value) :: memberValues rest

def elementValues : List (List (String × Node)) → List Value
  | [] => []
  | members :: rest => .table (Ascending.ofList (·.1) (memberValues members)) :: elementValues rest

end

/-- Walks the path from a table, making the tables that are missing, and changes the table at its
end. A dotted path passes only through tables that no header defined; no path passes through a
complete value, and through an array of tables it passes into the last element. -/
def changeAt (isDotted : Bool) (change : Origin → Members → Option Members) :
    List String → Origin → Members → Option Members
  | [], origin, members => change origin members
  | name :: path, _, members =>
    let made : Origin := if isDotted then .dotted else .implied
    match List.lookup name members with
    | none => do
      let inner ← changeAt isDotted change path made []
      return Entries.insert name (.table made inner) members
    | some (.table origin inner) => do
      if isDotted && origin = .defined then none
      let inner ← changeAt isDotted change path origin inner
      return Entries.insert name (.table origin inner) members
    | some (.tables (latest :: earlier)) => do
      let latest ← changeAt isDotted change path .defined latest
      return Entries.insert name (.tables (latest :: earlier)) members
    | some _ => none

/-- Adds a value under a dotted key. The table that takes it must be the one started from or be
made by dotted keys, and must not have the name yet. -/
def assign (path : List String) (name : String) (value : Value) (members : Members) :
    Option Members :=
  changeAt true
    (fun origin members =>
      if !path.isEmpty && origin ≠ .dotted then none
      else if (List.lookup name members).isSome then none
      else some (members ++ [(name, .complete value)]))
    path .defined members

/-- Puts the members that `fill` adds under a table header. A table that was only implied so far
may be defined; no table is defined twice. -/
def defineTable (path : List String) (name : String) (fill : Members → Option Members)
    (root : Members) : Option Members :=
  changeAt false
    (fun _ members =>
      match List.lookup name members with
      | none => do return Entries.insert name (.table .defined (← fill [])) members
      | some (.table .implied inner) => do
        return Entries.insert name (.table .defined (← fill inner)) members
      | some _ => none)
    path .defined root

/-- Appends an element to an array of tables, which only such headers make. -/
def appendTable (path : List String) (name : String) (fill : Members → Option Members)
    (root : Members) : Option Members :=
  changeAt false
    (fun _ members =>
      match List.lookup name members with
      | none => do return Entries.insert name (.tables [← fill []]) members
      | some (.tables elements) => do
        return Entries.insert name (.tables ((← fill []) :: elements)) members
      | some _ => none)
    path .defined root

end EntityMapper.Toml
