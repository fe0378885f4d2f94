import EntityMapper.Entries
import EntityMapper.Java.Syntax

/-!
# Running method bodies

The part of Java that mapper methods use: a local variable is declared with a new object, a method
with one argument is called on the object of a variable, and an object is returned. An argument is
a variable or a call on a parameter, whose result stays symbolic. Anything else does not run; nor
does a second declaration of a name, the use of a variable that is not declared, or a statement
after a return.
-/
namespace EntityMapper.Java

/-- What an argument stands for when its call is made. -/
inductive Value where
  | object (number : Nat)
  | result (parameter method : String) (arguments : List Expr)

/-- A method called on an object, with its argument. -/
structure Call where
  receiver : Nat
  method : String
  argument : Value

structure Machine where
  parameters : List String
  /-- The object that each local variable holds, in order of declaration. -/
  locals : Entries Nat := []
  /-- The types of the objects made so far; an object is known by its position. -/
  objects : List TypeRef := []
  calls : List Call := []
  returned : Option Nat := none

namespace Machine

def eval (machine : Machine) : Expr → Option Value
  | .name varName => (machine.locals.get? varName).map .object
  | .call (some (.name parameter)) method arguments =>
    if parameter ∈ machine.parameters then some (.result parameter method arguments) else none
  | _ => none

/-- A new object under a new name. -/
def declare (machine : Machine) (varName : String) (type : TypeRef) : Option Machine :=
  if varName ∈ machine.parameters ∨ varName ∈ machine.locals.names then none
  else
    some { machine with
      locals := machine.locals ++ [(varName, machine.objects.length)]
      objects := machine.objects ++ [type] }

def send (machine : Machine) (owner method : String) (argument : Expr) : Option Machine := do
  let receiver ← machine.locals.get? owner
  let value ← machine.eval argument
  return { machine with calls := machine.calls ++ [⟨receiver, method, value⟩] }

def giveBack (machine : Machine) (varName : String) : Option Machine := do
  let object ← machine.locals.get? varName
  return { machine with returned := some object }

def step (machine : Machine) : Element → Option Machine
  | .localVar _ varName (some (.new type [])) => machine.declare varName type
  | .expr (.call (some (.name owner)) method [argument]) => machine.send owner method argument
  | .result (some (.name varName)) => machine.giveBack varName
  | _ => none

def run (machine : Machine) : List Element → Option Machine
  | [] => some machine
  | element :: rest =>
    if machine.returned.isSome then none
    else (machine.step element).bind fun after => after.run rest

theorem run_append (machine : Machine) (first second : List Element) :
    machine.run (first ++ second) =
      (machine.run first).bind fun middle => middle.run second := by
  induction first generalizing machine with
  | nil => rfl
  | cons element rest ih =>
    rw [List.cons_append, run, run]
    split
    · rfl
    · rw [Option.bind_assoc]
      exact Option.bind_congr fun after _ => ih after

end Machine

/-- Runs the body of a method on its parameters. -/
def runMethod : Element → Option Machine
  | .method head body =>
    ({ parameters := head.parameters.map (·.name) } : Machine).run body
  | _ => none

end EntityMapper.Java
