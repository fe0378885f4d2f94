import EntityMapper.Entries
import EntityMapper.MappingError
import EntityMapper.Naming.Strategy

/-!
# Strategies by name

A catalog knows how to make the strategy of each registered name and which one to use when no
name is given. `StrategyPool` adds the instances handed out so far: a name yields one instance
until it is registered again, and a failed construction leaves nothing behind.
-/
namespace EntityMapper

/-- Makes a fresh strategy, or fails with a reason. -/
abbrev StrategyFactory := Except String NamingStrategy

structure StrategyCatalog where
  default : NamingStrategy
  factories : Entries StrategyFactory

namespace StrategyCatalog

def empty (default : NamingStrategy) : StrategyCatalog :=
  ⟨default, []⟩

def register (catalog : StrategyCatalog) (name : String) (factory : StrategyFactory) :
    StrategyCatalog :=
  { catalog with factories := Entries.insert name factory catalog.factories }

/-- The built-in strategies, the lower-case one under the name `default` too. -/
def standard : StrategyCatalog :=
  (((empty LetterCase.lower.snake).register "default" (.ok LetterCase.lower.snake)).register
    LetterCase.lower.strategyName (.ok LetterCase.lower.snake)).register
    LetterCase.upper.strategyName (.ok LetterCase.upper.snake)

def contains (catalog : StrategyCatalog) (name : String) : Bool :=
  catalog.factories.contains name

/-- Makes the strategy registered under `name`. -/
def make (catalog : StrategyCatalog) (name : String) : Except MappingError NamingStrategy :=
  match catalog.factories.get? name with
  | none => .error (.strategyNotRegistered name)
  | some (.error reason) => .error (.strategyFailed name reason)
  | some (.ok strategy) => .ok strategy

/-- The default strategy when no name is given. -/
def resolve (catalog : StrategyCatalog) : Option String → Except MappingError NamingStrategy
  | none => .ok catalog.default
  | some name => catalog.make name

end StrategyCatalog

/-- One strategy object, told apart from others by its number. -/
structure StrategyInstance where
  number : Nat
  strategy : NamingStrategy

/-- A catalog in use. Number zero is the default strategy; every construction takes the next. -/
structure StrategyPool where
  catalog : StrategyCatalog
  live : Entries StrategyInstance
  nextNumber : Nat

namespace StrategyPool

def ofCatalog (catalog : StrategyCatalog) : StrategyPool :=
  ⟨catalog, [], 1⟩

/-- A new factory retires the instance its name had. -/
def register (pool : StrategyPool) (name : String) (factory : StrategyFactory) : StrategyPool :=
  { pool with catalog := pool.catalog.register name factory, live := pool.live.erase name }

def contains (pool : StrategyPool) (name : String) : Bool :=
  pool.catalog.contains name

def defaultInstance (pool : StrategyPool) : StrategyInstance :=
  ⟨0, pool.catalog.default⟩

/-- Hands out the live instance of the name, or makes one and keeps it. -/
def resolve (pool : StrategyPool) :
    Option String → Except MappingError StrategyInstance × StrategyPool
  | none => (.ok pool.defaultInstance, pool)
  | some name =>
    match pool.live.get? name with
    | some inst => (.ok inst, pool)
    | none =>
      match pool.catalog.make name with
      | .error cause => (.error cause, pool)
      | .ok strategy =>
        let made : StrategyInstance := ⟨pool.nextNumber, strategy⟩
        (.ok made, { pool with
          live := Entries.insert name made pool.live
          nextNumber := pool.nextNumber + 1 })

end StrategyPool

end EntityMapper
