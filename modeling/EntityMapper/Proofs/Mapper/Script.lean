import EntityMapper.Mapper.ToEntity
import EntityMapper.Proofs.Mapper.Machine
import Mathlib.Data.List.Nodup

/-!
# Scripts of a mapper method

The statements of a mapper method as actions on variables. A script in which every variable is
declared once and before it is used runs to the end (`run_script`): it makes one object for each
declaration, and makes the calls of its actions in order, on the objects its variables hold at the
end.
-/
namespace EntityMapper.ToEntity

open Java (Call Element Machine TypeRef Value)

/-- What one statement does. -/
inductive Action where
  /-- Declares a variable with a new object. -/
  | create (varName typeName : String)
  /-- Stores a column in the object of `owner`. -/
  | fetch (owner : String) (column : Column)
  /-- Hands the object of an embedded field to that of `owner`. -/
  | attach (owner : String) (field : Embedding)
  deriving DecidableEq

namespace Action

def element (context : MapperContext) (table : Table) : Action → Element
  | create varName typeName => declareNew (.named typeName) varName
  | fetch owner column => readColumn context table owner column
  | attach owner field => ToEntity.attach owner field

/-- Name and type of the variable that the action declares. -/
def created? : Action → Option (String × String)
  | create varName typeName => some (varName, typeName)
  | _ => none

def isCall (action : Action) : Bool :=
  action.created?.isNone

/-- The call that the action makes when variables hold the given objects: a setter takes what the
record has for a column, or an object. -/
def call? (context : MapperContext) (table : Table) (locals : Entries Nat) : Action → Option Call
  | create _ _ => none
  | fetch owner column => do
    let receiver ← locals.get? owner
    return ⟨receiver, column.setter, .result recordVariable context.library.getValue
      (.access (.name table.constant) column.constant :: (column.converter.map fun converter =>
        .name (context.converterConstant table converter)).toList)⟩
  | attach owner field => do
    let receiver ← locals.get? owner
    let object ← locals.get? field.varName
    return ⟨receiver, field.setter, .object object⟩

/-- The variables the action uses are declared, the one it declares is not. -/
def Ready (known : List String) : Action → Prop
  | create varName _ => varName ∉ known ∧ varName ≠ recordVariable
  | fetch owner _ => owner ∈ known
  | attach owner field => owner ∈ known ∧ field.varName ∈ known

end Action

/-- Names and types of the variables that a script declares. -/
def creations (script : List Action) : List (String × String) :=
  script.filterMap Action.created?

def declared (script : List Action) : List String :=
  (creations script).map (·.1)

/-- Every action is ready when its turn comes. -/
def Scoped : (known : List String) → List Action → Prop
  | _, [] => True
  | known, action :: rest => action.Ready known ∧ Scoped (known ++ declared [action]) rest

@[simp] theorem creations_nil : creations [] = [] := rfl

@[simp] theorem creations_create (varName typeName : String) (rest : List Action) :
    creations (.create varName typeName :: rest) = (varName, typeName) :: creations rest := rfl

@[simp] theorem creations_fetch (owner : String) (column : Column) (rest : List Action) :
    creations (.fetch owner column :: rest) = creations rest := rfl

@[simp] theorem creations_attach (owner : String) (field : Embedding) (rest : List Action) :
    creations (.attach owner field :: rest) = creations rest := rfl

theorem creations_call {action : Action} (call : action.isCall = true) (rest : List Action) :
    creations (action :: rest) = creations rest := by
  cases action with
  | create varName typeName => cases call
  | fetch owner column => rfl
  | attach owner field => rfl

@[simp] theorem creations_append (first second : List Action) :
    creations (first ++ second) = creations first ++ creations second :=
  List.filterMap_append

@[simp] theorem declared_append (first second : List Action) :
    declared (first ++ second) = declared first ++ declared second := by
  simp [declared]

theorem scoped_append (known : List String) (first second : List Action) :
    Scoped known (first ++ second) ↔
      Scoped known first ∧ Scoped (known ++ declared first) second := by
  induction first generalizing known with
  | nil => simp [Scoped, declared, creations]
  | cons action rest ih =>
    have grouped : declared (action :: rest) = declared [action] ++ declared rest :=
      declared_append [action] rest
    rw [List.cons_append, Scoped, Scoped, ih, grouped, List.append_assoc, and_assoc]

/-- The variables of a script differ from those known before and from each other. -/
theorem Scoped.declared_nodup {known : List String} {script : List Action}
    (ordered : Scoped known script) (distinct : known.Nodup) :
    (known ++ declared script).Nodup := by
  induction script generalizing known with
  | nil => simpa [declared, creations] using distinct
  | cons action rest ih =>
    obtain ⟨ready, later⟩ := ordered
    have grouped : declared (action :: rest) = declared [action] ++ declared rest :=
      declared_append [action] rest
    rw [grouped, ← List.append_assoc]
    refine ih later ?_
    cases action with
    | create varName typeName =>
      exact distinct.append (List.nodup_singleton _) (List.disjoint_singleton.mpr ready.1)
    | fetch owner column => simpa [declared] using distinct
    | attach owner field => simpa [declared] using distinct

theorem creations_of_calls {script : List Action}
    (calls : ∀ action ∈ script, action.isCall = true) : creations script = [] :=
  List.filterMap_eq_nil_iff.mpr fun action member => Option.isNone_iff_eq_none.mp (calls action member)

/-- Calls leave the known variables as they are. -/
theorem scoped_of_calls {known : List String} {script : List Action}
    (calls : ∀ action ∈ script, action.isCall = true)
    (ready : ∀ action ∈ script, action.Ready known) : Scoped known script := by
  induction script with
  | nil => trivial
  | cons action rest ih =>
    obtain ⟨call, otherCalls⟩ := List.forall_mem_cons.mp calls
    obtain ⟨first, others⟩ := List.forall_mem_cons.mp ready
    refine ⟨first, ?_⟩
    simpa [declared, creations_call call] using ih otherCalls others

/-- A declared variable holds something. -/
theorem exists_held {locals : Entries Nat} {varName : String} (known : varName ∈ locals.names) :
    ∃ object, locals.get? varName = some object :=
  Option.isSome_iff_exists.mp ((locals.get?_isSome varName).mpr known)

/-- A later declaration does not change the calls of variables that are declared already. -/
theorem call?_append (context : MapperContext) (table : Table) {locals more : Entries Nat}
    {action : Action} (ready : action.Ready locals.names) (call : action.isCall = true) :
    action.call? context table (locals ++ more) = action.call? context table locals := by
  have kept {name : String} (member : name ∈ locals.names) :
      Entries.get? (locals ++ more) name = locals.get? name := by
    obtain ⟨value, held⟩ := exists_held member
    rw [Entries.get?_append, held]
    rfl
  cases action with
  | create varName typeName => cases call
  | fetch owner column => rw [Action.call?, Action.call?, kept ready]
  | attach owner field => rw [Action.call?, Action.call?, kept ready.1, kept ready.2]

/-- One statement: a declaration adds a local variable, anything else is a call. -/
theorem step_element (context : MapperContext) (table : Table) (action : Action)
    {machine : Machine} (parameters : machine.parameters = [recordVariable])
    (ready : action.Ready machine.locals.names) :
    (∃ varName typeName, action = .create varName typeName ∧
      machine.step (action.element context table) = some { machine with
        locals := machine.locals ++ [(varName, machine.objects.length)]
        objects := machine.objects ++ [.named typeName] }) ∨
    ∃ call, action.isCall = true ∧
      action.call? context table machine.locals = some call ∧
      machine.step (action.element context table) =
        some { machine with calls := machine.calls ++ [call] } := by
  cases action with
  | create varName typeName =>
    obtain ⟨fresh, reserved⟩ := ready
    refine .inl ⟨varName, typeName, rfl, ?_⟩
    simp [Action.element, declareNew, Machine.step, Machine.declare, parameters, fresh, reserved]
  | fetch owner column =>
    obtain ⟨receiver, held⟩ := exists_held ready
    have arguments : context.columnArguments table column none =
        .access (.name table.constant) column.constant :: (column.converter.map fun converter =>
          Java.Expr.name (context.converterConstant table converter)).toList := by
      rw [MapperContext.columnArguments, MapperContext.columnReference]
      cases column.converter <;> rfl
    refine .inr ⟨_, rfl, by rw [Action.call?, held]; rfl, ?_⟩
    simp [Action.element, readColumn, Java.Expr.send, Machine.step, Machine.send, Machine.eval,
      parameters, held, arguments]
  | attach owner field =>
    obtain ⟨receiver, heldOwner⟩ := exists_held ready.1
    obtain ⟨object, heldField⟩ := exists_held ready.2
    refine .inr ⟨⟨receiver, field.setter, .object object⟩, rfl, ?_, ?_⟩
    · rw [Action.call?, heldOwner, heldField]
      rfl
    · simp [Action.element, ToEntity.attach, Java.Expr.send, Machine.step, Machine.send,
        Machine.eval, heldOwner, heldField]

/-- A scoped script runs. Its declarations extend the locals and objects, its other actions the
calls; each call is that of its action under the final locals. -/
theorem run_script (context : MapperContext) (table : Table) (script : List Action)
    (machine : Machine) (parameters : machine.parameters = [recordVariable])
    (running : machine.returned = none) (ordered : Scoped machine.locals.names script) :
    ∃ after, machine.run (script.map (Action.element context table)) = some after ∧
      after.returned = none ∧
      after.locals =
        machine.locals ++ (declared script).zipIdx machine.objects.length ∧
      after.objects = machine.objects ++ (creations script).map (fun made => .named made.2) ∧
      after.calls.map some = machine.calls.map some ++
        (script.filter Action.isCall).map (Action.call? context table after.locals) := by
  induction script generalizing machine with
  | nil => exact ⟨machine, rfl, running, by simp [declared], by simp, by simp⟩
  | cons action rest ih =>
    obtain ⟨ready, later⟩ := ordered
    have ran {next after : Machine}
        (stepped : machine.step (action.element context table) = some next)
        (ran : next.run (rest.map (Action.element context table)) = some after) :
        machine.run ((action :: rest).map (Action.element context table)) = some after := by
      rw [List.map_cons, Machine.run, running, stepped]
      exact ran
    rcases step_element context table action parameters ready with
      ⟨varName, typeName, rfl, stepped⟩ | ⟨call, isCall, made, stepped⟩
    · obtain ⟨after, finished, returned, locals, objects, calls⟩ := ih
        { machine with
          locals := machine.locals ++ [(varName, machine.objects.length)]
          objects := machine.objects ++ [.named typeName] }
        parameters running (by simpa [Entries.names, declared] using later)
      refine ⟨after, ran stepped finished, returned, ?_, ?_, calls⟩
      · rw [locals]
        simp [declared]
      · rw [objects]
        simp
    · obtain ⟨after, finished, returned, locals, objects, calls⟩ := ih
        { machine with calls := machine.calls ++ [call] }
        parameters running (by simpa [declared, creations_call isCall] using later)
      have resolved : action.call? context table after.locals = some call := by
        rw [locals, call?_append context table ready isCall, made]
      refine ⟨after, ran stepped finished, returned, ?_, ?_, ?_⟩
      · rw [locals, declared, declared, creations_call isCall]
      · rw [objects, creations_call isCall]
      · rw [calls, List.filter_cons_of_pos isCall, List.map_cons, resolved]
        simp

end EntityMapper.ToEntity
