import EntityMapper.Java.Layout
import EntityMapper.Scope
import EntityMapper.Table.Basic

/-!
# What mapper methods are written with

The query library and the naming strategy of a table, and the names by which emitted code refers
to columns and converters. The constant of a converter is named for its target and converter
class; where that name is shared the target is written with its package, and where that is still
shared the converter is too.
-/
namespace EntityMapper

structure MapperContext where
  library : QueryLibrary := .jooq
  strategy : NamingStrategy := LetterCase.lower.snake

/-- How much of its types the constant of a converter spells out. -/
inductive ConverterNaming where
  | simple | qualifiedTarget | qualified
  deriving DecidableEq, Repr

/-- The fragments of a converter's constant. -/
def ConverterNaming.fragments (converter : Converter) : ConverterNaming → List String
  | simple => [converter.simpleTarget, converter.simpleType]
  | qualifiedTarget => Text.segments '.' converter.toType ++ [converter.simpleType]
  | qualified => Text.segments '.' converter.toType ++ Text.segments '.' converter.converterType

namespace MapperContext

/-- The context of the table whose scope is given. -/
def ofScope (library : QueryLibrary) (scope : Scope) : MapperContext where
  library := library
  strategy := (scope.get .strategy).getD LetterCase.lower.snake

def converterName (context : MapperContext) (naming : ConverterNaming) (converter : Converter) :
    String :=
  constantName (context.strategy.resolve (naming.fragments converter))

/-- Whether another converter of the list has the same name under this naming. -/
def clashes (context : MapperContext) (converters : List Converter) (naming : ConverterNaming)
    (converter : Converter) : Bool :=
  converters.any fun other =>
    !other.same converter
      && context.converterName naming other == context.converterName naming converter

/-- The constant that holds the converter in the table's mapper: the shortest name that no other
converter of the table shares, or else the longest. -/
def converterConstant (context : MapperContext) (table : Table) (converter : Converter) : String :=
  if !context.clashes table.converters .simple converter then
    context.converterName .simple converter
  else if !context.clashes table.converters .qualifiedTarget converter then
    context.converterName .qualifiedTarget converter
  else context.converterName .qualified converter

/-- The column as a member of the table's constant. -/
def columnReference (table : Table) (column : Column) : Java.Expr :=
  .access (.name table.constant) column.constant

/-- The arguments that name a column: its reference, the value to store if there is one, and its
converter if it has one. -/
def columnArguments (context : MapperContext) (table : Table) (column : Column)
    (value : Option Java.Expr) : List Java.Expr :=
  columnReference table column :: value.toList
    ++ (match column.converter with
        | some converter => [.name (context.converterConstant table converter)]
        | none => [])

end MapperContext

end EntityMapper
