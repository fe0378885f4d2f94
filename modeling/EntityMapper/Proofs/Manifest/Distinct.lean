import EntityMapper.Proofs.Manifest.Reading
import EntityMapper.Proofs.Manifest.WellFormed
import EntityMapper.Proofs.Walk.Leaves

/-!
# Names of a valid manifest

A manifest that can be read is well-formed (`Manifest.wellFormed_of_parse`). So its classes differ in
name, and so do the fields of each class (`Manifest.parse_distinct`), and none of these names is one
that cannot be a name in a source (`Manifest.parse_names`).
-/
namespace EntityMapper.Manifest

variable {manifest : Manifest} {source file : String}

theorem wellFormed_of_parse (parsed : parse source file = .ok manifest) : manifest.WellFormed :=
  validate_eq_ok.mp (validate_of_parse parsed)

/-- In a manifest that can be read, classes differ in name, and fields do within a class. -/
theorem parse_distinct (parsed : parse source file = .ok manifest) :
    (manifest.classes.map (·.name)).Nodup ∧ manifest.metadata.DistinctFields := by
  have valid := wellFormed_of_parse parsed
  exact ⟨valid.distinct, fun decl member => (valid.classes decl member).distinct⟩

/-- In a manifest that can be read, classes have qualified names, and fields are identifiers. -/
theorem parse_names (parsed : parse source file = .ok manifest) {decl : ClassDeclaration}
    (member : decl ∈ manifest.classes) :
    Java.isQualifiedName decl.name = true ∧
      ∀ field ∈ decl.fields, Java.isIdentifier field.name = true := by
  have valid := wellFormed_of_parse parsed
  refine ⟨(Java.isClassName_iff.mp (valid.names decl member)).1, fun field inFields => ?_⟩
  exact ((valid.classes decl member).fields field inFields).name.1

end EntityMapper.Manifest
