import EntityMapper.Ascending
import EntityMapper.Java.Name

/-!
# Value converters of columns

Two converters are the same converter when their keys agree, whatever else differs; the
converters of a table are held once per key, ascending by it.
-/
namespace EntityMapper

structure Converter where
  converterType : String
  fromType : String
  toType : String
  generic : Bool := false
  deriving DecidableEq, Repr

namespace Converter

/-- Identity of a converter: its type followed by its target type. -/
def key (converter : Converter) : String :=
  converter.converterType ++ converter.toType

def same (a b : Converter) : Bool :=
  a.key == b.key

def simpleType (converter : Converter) : String :=
  Java.simpleName converter.converterType

def simpleTarget (converter : Converter) : String :=
  Java.simpleName converter.toType

/-- One converter per key, ascending by key; of several the first. -/
def distinct (converters : List Converter) : List Converter :=
  Ascending.ofList key converters

end Converter

end EntityMapper
