import EntityMapper.Metadata.Declaration
import EntityMapper.Text.Segments

/-!
# Overrides at nested fields

A layer holds the overrides declared at some depth of the path; they are keyed by what remains
of the path from there. Stronger layers come first, and each option is taken from the first layer
that sets it.
-/
namespace EntityMapper

structure OverrideLayer where
  overrides : Overrides
  /-- How many leading names of a path the keys of the layer leave out. -/
  depth : Nat
  deriving DecidableEq, Repr

/-- The entry for the path; a path that ends at or above the layer's depth has none. -/
def OverrideLayer.find? (layer : OverrideLayer) (path : List String) : Option ColumnOptions :=
  if path.length ≤ layer.depth then none
  else layer.overrides.get? (Text.joinWith "." (path.drop layer.depth))

/-- All entries for the path merged, stronger ones over weaker ones. -/
def mergedOverride : List OverrideLayer → List String → Option ColumnOptions
  | [], _ => none
  | layer :: weaker, path =>
    match layer.find? path, mergedOverride weaker path with
    | some upper, some lower => some (upper.orElse lower)
    | some upper, none => some upper
    | none, lower => lower

end EntityMapper
