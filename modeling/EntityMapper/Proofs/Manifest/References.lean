import EntityMapper.Proofs.Manifest.WellFormed

/-!
# References of a valid manifest

Validation visits every place where a declaration refers to another one by name: the converters
of column options, wherever these stand, and the types of embedded fields. What it lets through is
closed under these references (`Manifest.validate_closed`).
-/
namespace EntityMapper

namespace Metadata

/-- The references of a field lead to declarations: those of its own options, those of the
overrides at its embedding, and its type if it is embedded. -/
structure ResolvesField (metadata : Metadata) (field : FieldDeclaration) : Prop where
  column : ∀ options, field.column = some options → metadata.Knows options
  overrides : ∀ inner, field.embedded = some inner → ∀ entry ∈ inner, metadata.Knows entry.2
  type : field.embedded.isSome = true → (metadata.class? field.type).isSome = true

structure ResolvesClass (metadata : Metadata) (decl : ClassDeclaration) : Prop where
  fields : ∀ field ∈ decl.fields, metadata.ResolvesField field
  overrides : ∀ entry ∈ decl.overrides, metadata.Knows entry.2

/-- No declared class refers to anything undeclared. -/
def Closed (metadata : Metadata) : Prop :=
  ∀ decl ∈ metadata.classes, metadata.ResolvesClass decl

end Metadata

namespace Manifest

variable {manifest : Manifest}

theorem class?_isSome {name : String} (declared : ∃ decl ∈ manifest.classes, decl.name = name) :
    (manifest.metadata.class? name).isSome = true := by
  rw [Metadata.class?, List.find?_isSome]
  simpa [Manifest.metadata] using declared

theorem resolvesField {field : FieldDeclaration} (valid : field.WellMapped manifest) :
    manifest.metadata.ResolvesField field where
  column := valid.column
  overrides inner embeds entry member := (valid.overrides inner embeds entry member).2
  type embeds := class?_isSome (valid.declared embeds)

theorem resolvesClass {decl : ClassDeclaration} (valid : decl.WellFormed manifest) :
    manifest.metadata.ResolvesClass decl where
  fields field member := resolvesField (valid.fields field member).mapping
  overrides entry member := (valid.overrides entry member).2

/-- A valid manifest is closed under its references. -/
theorem validate_closed {source file : String}
    (valid : manifest.validate source file = .ok ()) : manifest.metadata.Closed :=
  fun decl member => resolvesClass ((validate_eq_ok.mp valid).classes decl member)

end Manifest

end EntityMapper
