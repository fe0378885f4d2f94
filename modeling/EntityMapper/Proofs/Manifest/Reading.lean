import EntityMapper.Manifest.Reader
import EntityMapper.Proofs.Outcome

/-!
# Reading manifests

A manifest that is read from a text has passed validation (`Manifest.validate_of_parse`). For a text
that is spelled out, what reading it gives is decided on its characters (`Manifest.parse_ofList`).
-/
namespace EntityMapper

/-- What the tokens of a document describe. -/
def Toml.document (tokens : Tokens) : Option Value := do
  let (assignments, sections) ← lines (tokens.length + 1) tokens
  let root ← assignAll assignments []
  let root ← sections.foldlM addSection root
  return (Node.table .defined root).value

/-- Reading a document scans its characters and then reads the tokens. -/
theorem Toml.parse_ofList (chars : List Char) :
    parse (String.ofList chars) = (scan chars).bind document := by
  rw [parse, String.toList_ofList]
  rfl

namespace Manifest

variable {manifest : Manifest} {file : String}

/-- A manifest that can be read has passed validation. -/
theorem validate_of_parse {source : String} (parsed : parse source file = .ok manifest) :
    manifest.validate source file = .ok () := by
  rw [parse] at parsed
  split at parsed
  · cases parsed
  · obtain ⟨_, valid, same⟩ := bind_eq_ok.mp parsed
    cases same
    exact valid

/-- A text gives the manifest that its characters describe, if that is valid. Texts are taken apart
only here: to evaluate their characters costs much more than to match them. -/
theorem parse_ofList {chars : List Char}
    (described : ((Toml.scan chars).bind Toml.document).bind ofToml? = some manifest)
    (valid : (manifest.validate (String.ofList chars) file).isOk = true) :
    parse (String.ofList chars) file = .ok manifest := by
  obtain ⟨_, valid⟩ := exists_eq_ok valid
  rw [parse, Toml.parse_ofList, described]
  simp only [valid]
  rfl

end Manifest

end EntityMapper
