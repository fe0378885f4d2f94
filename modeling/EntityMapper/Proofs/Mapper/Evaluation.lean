import EntityMapper.Entries
import EntityMapper.Java.Syntax
import EntityMapper.Proofs.Text.Segments
import EntityMapper.QueryLibrary
import Mathlib.Logic.Function.Basic

/-!
# Evaluating method bodies

The part of Java that mapper methods use, over values of any type. Objects have properties, read
and written by their accessors. A record keeps what was stored under its columns; a column is a
member of the constant of its table. Converters are constants too: they take values to and from a
record. A local variable hides the constant of its name. What else a body may hold does not run, nor
does a second declaration of a name.
-/
namespace EntityMapper

/-- A new entry at the end is found under its name, unless there is one already. -/
theorem Entries.get?_concat {α : Type} (entries : Entries α) (name : String) (value : α)
    (asked : String) : Entries.get? (entries ++ [(name, value)]) asked =
      (entries.get? asked).or (if name = asked then some value else none) := by
  rw [Entries.get?_append, Entries.get?_cons]
  cases entries.get? asked <;> rfl

namespace Java

/-- What a converter makes of values on their way to a record and back. -/
structure Codec (V : Type) where
  read : V → V
  write : V → V

/-- What emitted sources run with. -/
structure Runtime (V : Type) where
  library : QueryLibrary
  /-- What was never set. -/
  unset : V
  /-- The converter of a constant. -/
  codec : String → Codec V

/-- What variables and properties hold; objects and records are known by number. -/
inductive Datum (V : Type) where
  | plain (value : V)
  | object (number : Nat)
  | record (number : Nat)

/-- What an expression stands for. -/
inductive Operand (V : Type) where
  | datum (datum : Datum V)
  | constant (name : String)
  | column (table name : String)

/-- What was stored in a record, in order; a column is known by its table and its own name. -/
abbrev StoredRow (V : Type) := List ((String × String) × V)

structure Memory (V : Type) where
  locals : Entries (Datum V) := []
  /-- The properties of the objects made so far. -/
  objects : List (String → Datum V) := []
  records : List (StoredRow V) := []

/-- The property that an accessor with the given beginning is of. -/
def property? (start method : String) : Option String :=
  (Text.afterStart? start.toList method.toList).map String.ofList

theorem property?_append (start property : String) :
    property? start (start ++ property) = some property := by
  simp [property?, Text.afterStart?_append]

@[simp] theorem property?_getterName (field : String) :
    property? "get" (getterName field) = some (capitalize field) :=
  property?_append "get" (capitalize field)

@[simp] theorem property?_setterName (field : String) :
    property? "set" (setterName field) = some (capitalize field) :=
  property?_append "set" (capitalize field)

namespace Memory

variable {V : Type}

/-- A new object whose properties all are `unset`. -/
def makeObject (memory : Memory V) (unset : V) : Memory V × Datum V :=
  ({ memory with objects := memory.objects ++ [fun _ => .plain unset] },
    .object memory.objects.length)

/-- A new record in which nothing is stored. -/
def makeRecord (memory : Memory V) : Memory V × Datum V :=
  ({ memory with records := memory.records ++ [[]] }, .record memory.records.length)

def declare (memory : Memory V) (name : String) (datum : Datum V) : Option (Memory V) :=
  if name ∈ memory.locals.names then none
  else some { memory with locals := memory.locals ++ [(name, datum)] }

/-- What a name stands for: a local variable hides the constant of its name. -/
def operand (memory : Memory V) (name : String) : Operand V :=
  (memory.locals.get? name).elim (.constant name) .datum

/-- A new object under a new name. -/
def withNew (memory : Memory V) (name : String) (properties : String → Datum V) : Memory V :=
  { memory with
    locals := memory.locals ++ [(name, .object memory.objects.length)]
    objects := memory.objects ++ [properties] }

def setObject (memory : Memory V) (number : Nat) (properties : String → Datum V) : Memory V :=
  { memory with objects := memory.objects.set number properties }

def setRow (memory : Memory V) (number : Nat) (row : StoredRow V) : Memory V :=
  { memory with records := memory.records.set number row }

variable {memory : Memory V} {name : String} {number : Nat}

@[simp] theorem setObject_locals (properties : String → Datum V) :
    (memory.setObject number properties).locals = memory.locals := rfl

@[simp] theorem setObject_setObject (first second : String → Datum V) :
    (memory.setObject number first).setObject number second = memory.setObject number second := by
  simp [setObject]

theorem withNew_held {name : String} {properties added : String → Datum V}
    (held : memory.objects[number]? = some properties) :
    (memory.withNew name added).objects[number]? = some properties := by
  obtain ⟨bound, _⟩ := List.getElem?_eq_some_iff.mp held
  simpa [withNew, List.getElem?_append_left bound] using held

theorem withNew_get? (name asked : String) (properties : String → Datum V) :
    (memory.withNew name properties).locals.get? asked = (memory.locals.get? asked).or
      (if name = asked then some (.object memory.objects.length) else none) :=
  Entries.get?_concat memory.locals name _ asked

theorem setObject_self {properties : String → Datum V}
    (held : memory.objects[number]? = some properties) :
    memory.setObject number properties = memory := by
  obtain ⟨bound, rfl⟩ := List.getElem?_eq_some_iff.mp held
  simp [setObject]

theorem setObject_held {properties other : String → Datum V}
    (held : memory.objects[number]? = some other) :
    (memory.setObject number properties).objects[number]? = some properties := by
  obtain ⟨bound, _⟩ := List.getElem?_eq_some_iff.mp held
  simp [setObject, bound]

theorem setObject_of_ne {other : Nat} (differ : number ≠ other) (properties : String → Datum V) :
    (memory.setObject number properties).objects[other]? = memory.objects[other]? := by
  simp [setObject, List.getElem?_set_ne differ]

@[simp] theorem setRow_setRow (first second : StoredRow V) :
    (memory.setRow number first).setRow number second = memory.setRow number second := by
  simp [setRow]

theorem setRow_self {row : StoredRow V} (held : memory.records[number]? = some row) :
    memory.setRow number row = memory := by
  obtain ⟨bound, rfl⟩ := List.getElem?_eq_some_iff.mp held
  simp [setRow]

theorem operand_of_held {datum : Datum V} (held : memory.locals.get? name = some datum) :
    memory.operand name = .datum datum := by
  simp [operand, held]

theorem operand_of_free (free : memory.locals.get? name = none) :
    memory.operand name = .constant name := by
  simp [operand, free]

theorem setRow_held {row other : StoredRow V} (held : memory.records[number]? = some other) :
    (memory.setRow number row).records[number]? = some row := by
  obtain ⟨bound, _⟩ := List.getElem?_eq_some_iff.mp held
  simp [setRow, bound]

end Memory

namespace Runtime

variable {V : Type} (runtime : Runtime V)

/-- A value as the record takes it: the converter writes it, if there is one. -/
def encode (converter : Option String) (value : V) : V :=
  converter.elim value fun name => (runtime.codec name).write value

/-- A value as the record gives it: the converter reads it, if there is one. -/
def decode (converter : Option String) (value : V) : V :=
  converter.elim value fun name => (runtime.codec name).read value

/-- What was stored last under the column. -/
def stored (row : StoredRow V) (column : String × String) : V :=
  (row.reverse.lookup column).getD runtime.unset

/-- Calls that give something back: getters of objects, and what reads a record. -/
def ask (memory : Memory V) (method : String) :
    Operand V → List (Operand V) → Option (Datum V)
  | .datum (.object number), [] => do
    let properties ← memory.objects[number]?
    let property ← property? "get" method
    return properties property
  | .datum (.record number), [.column table name] => do
    let row ← memory.records[number]?
    if method = runtime.library.getValue then some (.plain (runtime.stored row (table, name)))
    else none
  | .datum (.record number), [.column table name, .constant converter] => do
    let row ← memory.records[number]?
    if method = runtime.library.getValue then
      some (.plain (runtime.decode converter (runtime.stored row (table, name))))
    else none
  | _, _ => none

/-- Calls that change something: setters of objects, and what stores in a record. -/
def tell (memory : Memory V) (method : String) :
    Operand V → List (Operand V) → Option (Memory V)
  | .datum (.object number), [.datum datum] => do
    let properties ← memory.objects[number]?
    let property ← property? "set" method
    return memory.setObject number (Function.update properties property datum)
  | .datum (.record number), [.column table name, .datum (.plain value)] => do
    let row ← memory.records[number]?
    if method = runtime.library.setValue then
      some (memory.setRow number (row ++ [((table, name), value)]))
    else none
  | .datum (.record number), [.column table name, .datum (.plain value), .constant converter] => do
    let row ← memory.records[number]?
    if method = runtime.library.setValue then
      some (memory.setRow number (row ++ [((table, name), runtime.encode converter value)]))
    else none
  | _, _ => none

mutual

def eval (memory : Memory V) : Expr → Option (Operand V)
  | .name identifier => some (memory.operand identifier)
  | .access object member => do
    match ← eval memory object with
    | .constant table => some (.column table member)
    | _ => none
  | .call (some object) method arguments => do
    let receiver ← eval memory object
    let operands ← evalAll memory arguments
    let datum ← runtime.ask memory method receiver operands
    return .datum datum
  | _ => none

def evalAll (memory : Memory V) : List Expr → Option (List (Operand V))
  | [] => some []
  | first :: rest => do
    let operand ← eval memory first
    let operands ← evalAll memory rest
    return operand :: operands

end

/-- What a variable is declared with: a new object, or the new record of a table. -/
def make (memory : Memory V) : Expr → Option (Memory V × Datum V)
  | .new _ [] => some (memory.makeObject runtime.unset)
  | .call (some (.name table)) method [] =>
    if table ∉ memory.locals.names ∧ method = runtime.library.newRecord then some memory.makeRecord
    else none
  | _ => none

def step (memory : Memory V) : Element → Option (Memory V)
  | .expr (.call (some object) method arguments) => do
    let receiver ← runtime.eval memory object
    let operands ← runtime.evalAll memory arguments
    runtime.tell memory method receiver operands
  | .localVar _ name (some initial) => do
    let (after, datum) ← runtime.make memory initial
    after.declare name datum
  | _ => none

/-- What a statement gives back if it is a return and the last one. -/
def returned (memory : Memory V) : Element → List Element → Option (Operand V)
  | .result (some value), [] => runtime.eval memory value
  | _, _ => none

/-- Runs statements up to the first that does not step, which may be the return. -/
def run (memory : Memory V) : List Element → Memory V × Option (Operand V)
  | [] => (memory, none)
  | element :: rest =>
    match runtime.step memory element with
    | some after => run after rest
    | none => (memory, runtime.returned memory element rest)

/-- Calls a method: its parameters hold the arguments. -/
def call (memory : Memory V) (arguments : List (Datum V)) : Element → Memory V × Option (Operand V)
  | .method head body =>
    runtime.run { memory with locals := (head.parameters.map (·.name)).zip arguments } body
  | _ => (memory, none)

variable {runtime} {memory after : Memory V}

theorem run_cons {element : Element} (stepped : runtime.step memory element = some after)
    (rest : List Element) : runtime.run memory (element :: rest) = runtime.run after rest := by
  rw [run, stepped]

theorem run_stuck {element : Element} (stuck : runtime.step memory element = none)
    (rest : List Element) : runtime.run memory (element :: rest) =
      (memory, runtime.returned memory element rest) := by
  rw [run, stuck]

theorem run_result (value : Expr) :
    runtime.run memory [.result (some value)] = (memory, runtime.eval memory value) :=
  run_stuck rfl []

/-- A setter takes one datum and sets its property on an object. -/
theorem tell_setter {receiver operand : Operand V} {field : String} :
    runtime.tell memory (setterName field) receiver [operand] = some after ↔
      ∃ number properties datum, receiver = .datum (.object number) ∧
        memory.objects[number]? = some properties ∧ operand = .datum datum ∧
        after =
          memory.setObject number (Function.update properties (capitalize field) datum) := by
  cases receiver with
  | constant name => simp [tell]
  | column table name => simp [tell]
  | datum held =>
    cases held with
    | plain value => simp [tell]
    | record number => cases operand <;> simp [tell]
    | object number =>
      cases operand with
      | constant name => simp [tell]
      | column table name => simp [tell]
      | datum datum => simp [tell, Option.bind_eq_some_iff, eq_comm (a := after)]

/-- A setter called on a variable runs if the variable holds an object and the argument is what a
property can hold. It sets that property and changes nothing else. -/
theorem step_setter {owner field : String} {argument : Expr} :
    runtime.step memory (.expr (.send (.name owner) (setterName field) [argument])) = some after ↔
      ∃ number properties datum, memory.locals.get? owner = some (.object number) ∧
        memory.objects[number]? = some properties ∧
        runtime.eval memory argument = some (.datum datum) ∧
        after =
          memory.setObject number (Function.update properties (capitalize field) datum) := by
  have held (number : Nat) : memory.operand owner = .datum (.object number) ↔
      memory.locals.get? owner = some (.object number) := by
    unfold Memory.operand
    cases memory.locals.get? owner <;> simp
  cases evaluated : runtime.eval memory argument with
  | none => simp [Expr.send, step, eval, evalAll, evaluated]
  | some operand => simp [Expr.send, step, eval, evalAll, evaluated, tell_setter, held]

/-- A variable is declared with a new object if its name is not declared yet. -/
theorem step_declareNew {type written : TypeRef} {name : String} :
    runtime.step memory (.localVar type name (some (.new written []))) = some after ↔
      name ∉ memory.locals.names ∧ after = memory.withNew name fun _ => .plain runtime.unset := by
  by_cases known : name ∈ memory.locals.names
  · simp [step, make, Memory.makeObject, Memory.declare, known]
  · simp [step, make, Memory.makeObject, Memory.declare, Memory.withNew, known, eq_comm]

theorem evalAll_append {first second : List Expr} {before behind : List (Operand V)}
    (evaluatedFirst : runtime.evalAll memory first = some before)
    (evaluatedSecond : runtime.evalAll memory second = some behind) :
    runtime.evalAll memory (first ++ second) = some (before ++ behind) := by
  induction first generalizing before with
  | nil =>
    cases evaluatedFirst
    exact evaluatedSecond
  | cons value first ih =>
    rw [List.cons_append, evalAll]
    rw [evalAll] at evaluatedFirst
    cases evaluated : runtime.eval memory value with
    | none => simp [evaluated] at evaluatedFirst
    | some operand =>
      cases others : runtime.evalAll memory first with
      | none => simp [evaluated, others] at evaluatedFirst
      | some operands =>
        rw [evaluated, others] at evaluatedFirst
        cases evaluatedFirst
        rw [ih others]
        rfl

/-- Where neither name is hidden, a column is passed as a member of the constant of its table, and
its converter, if it has one, by its constant. -/
theorem evalAll_column {table : String} {converter : Option String}
    (freeTable : memory.locals.get? table = none)
    (freeConverter : ∀ constant ∈ converter, memory.locals.get? constant = none) (name : String)
    {values : List Expr} {operands : List (Operand V)}
    (evaluated : runtime.evalAll memory values = some operands) :
    runtime.evalAll memory
        (.access (.name table) name :: (values ++ (converter.map Expr.name).toList)) =
      some (.column table name :: (operands ++ (converter.map Operand.constant).toList)) := by
  have own : runtime.eval memory (.access (.name table) name) = some (.column table name) := by
    simp [eval, Memory.operand_of_free freeTable]
  have others : runtime.evalAll memory (converter.map Expr.name).toList =
      some (converter.map Operand.constant).toList := by
    cases converter with
    | none => rfl
    | some constant => simp [evalAll, eval, Memory.operand_of_free (freeConverter constant rfl)]
  rw [evalAll, own, evalAll_append evaluated others]
  rfl

end Runtime

end Java

end EntityMapper
