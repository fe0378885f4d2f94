import EntityMapper.MappingError

/-!
# Why an operation fails

Causes that end an operation as a whole, worded as a chain from the outermost statement to the
innermost cause.
-/
namespace EntityMapper

inductive OperationError where
  | mapping (cause : MappingError)
  | extraction (cause : MappingError)
  | schemas (cause : MappingError)
  | building (className : String) (cause : MappingError)
  | noTable (className : String)
  | noScope (className : String)
  | noTablesClass
  | writing (path cause : String)
  deriving DecidableEq, Repr

/-- The statements, outermost first. -/
def OperationError.chain : OperationError → List String
  | mapping cause => [cause.message]
  | extraction cause => ["Failed to extract tables", cause.message]
  | schemas cause => ["Failed to resolve schemas", cause.message]
  | building className cause => ["Failed to build " ++ className, cause.message]
  | noTable className => ["class '" ++ className ++ "' is not declared or has no table"]
  | noScope className => ["Class '" ++ className ++ "' has no table"]
  | noTablesClass =>
    ["No tables class configured: set [database].tables_class or pass --tables-class"]
  | writing path cause => ["Failed to write " ++ path, cause]

end EntityMapper
