import EntityMapper.Extraction.Mapping

/-!
# Schemas of classes

A class belongs to the schema it names, or else to the one called after its innermost package.
-/
namespace EntityMapper

/-- The schema of classes without a package. -/
def defaultSchema : String := "public"

/-- The schema name before normalisation. -/
def ClassDeclaration.rawSchema (decl : ClassDeclaration) : String :=
  match decl.schema.bind (·.name) with
  | some name => name
  | none =>
    if Java.packageTail decl.name = "" then defaultSchema else Java.packageTail decl.name

def Mapping.schemaOf (mapping : Mapping) (decl : ClassDeclaration) (scope : Scope) :
    Except MappingError SchemaName := do
  let strategy ← mapping.strategyIn scope (decl.schema.bind (·.strategy))
  return ⟨(scope.get .database).getD mapping.databaseName, strategy.resolveOne decl.rawSchema⟩

end EntityMapper
