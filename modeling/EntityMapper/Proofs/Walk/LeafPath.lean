import EntityMapper.Proofs.Walk.Relation

/-!
# Leaf paths

A leaf path is a chain of declared fields: embedded ones, each of which leads into its type, and
a plain one at the end. `LeadsTo` says which leaf paths start in a list of fields; it knows no
layers, no variables and no cycles.
-/
namespace EntityMapper

structure LeafPath where
  /-- The embedded fields around the leaf, outermost first. -/
  around : List FieldDeclaration
  field : FieldDeclaration
  deriving DecidableEq, Repr

namespace LeafPath

def names (leaf : LeafPath) : List String :=
  leaf.around.map (·.name) ++ [leaf.field.name]

/-- The same leaf seen from outside the embedded field that leads to it. -/
def beneath (outer : FieldDeclaration) (leaf : LeafPath) : LeafPath :=
  ⟨outer :: leaf.around, leaf.field⟩

@[simp] theorem names_beneath (outer : FieldDeclaration) (leaf : LeafPath) :
    (leaf.beneath outer).names = outer.name :: leaf.names := rfl

end LeafPath

/-- A leaf path that starts in one of the fields. -/
inductive LeadsTo (metadata : Metadata) : List FieldDeclaration → LeafPath → Prop where
  | here {fields : List FieldDeclaration} {field : FieldDeclaration} (member : field ∈ fields)
      (stored : field.Stored) (plain : field.embedded = none) : LeadsTo metadata fields ⟨[], field⟩
  | inside {fields : List FieldDeclaration} {field : FieldDeclaration} {inner : Overrides}
      {decl : ClassDeclaration} {leaf : LeafPath} (member : field ∈ fields) (stored : field.Stored)
      (embeds : field.embedded = some inner) (declared : metadata.class? field.type = some decl)
      (leads : LeadsTo metadata decl.fields leaf) : LeadsTo metadata fields (leaf.beneath field)

/-- A leaf path has fields of the list it starts in and of declared classes. -/
theorem LeadsTo.forall_mem {metadata : Metadata} {p : FieldDeclaration → Prop}
    (declared : ∀ decl ∈ metadata.classes, ∀ field ∈ decl.fields, p field)
    {fields : List FieldDeclaration} {leaf : LeafPath} (leads : LeadsTo metadata fields leaf)
    (start : ∀ field ∈ fields, p field) : p leaf.field ∧ ∀ field ∈ leaf.around, p field := by
  induction leads with
  | here member _ _ => exact ⟨start _ member, by simp⟩
  | inside member _ _ found _ ih =>
    obtain ⟨last, around⟩ := ih (declared _ (Metadata.class?_mem found).1)
    exact ⟨last, List.forall_mem_cons.mpr ⟨start _ member, around⟩⟩

/-- The fields around a leaf are of declared classes. -/
theorem LeadsTo.around_declared {metadata : Metadata} {fields : List FieldDeclaration}
    {leaf : LeafPath} (leads : LeadsTo metadata fields leaf) :
    ∀ field ∈ leaf.around, ∃ decl ∈ metadata.classes, decl.name = field.type := by
  induction leads with
  | here _ _ _ => nofun
  | inside _ _ _ declared _ ih => exact List.forall_mem_cons.mpr ⟨⟨_, Metadata.class?_mem declared⟩, ih⟩

/-- The names of a leaf path start with that of one of the fields. -/
theorem LeadsTo.names_ne_cons {metadata : Metadata} {fields : List FieldDeclaration}
    {leaf : LeafPath} (leads : LeadsTo metadata fields leaf) {name : String}
    (fresh : name ∉ fields.map (·.name)) (below : List String) : leaf.names ≠ name :: below := by
  intro same
  cases leads with
  | here member stored plain =>
    exact fresh ((List.cons.inj same).1 ▸ List.mem_map_of_mem (f := (·.name)) member)
  | inside member stored embeds declared leads =>
    exact fresh ((List.cons.inj same).1 ▸ List.mem_map_of_mem (f := (·.name)) member)

/-- The first field leads to a leaf itself, through its type, or not at all. -/
theorem leadsTo_cons {metadata : Metadata} {field : FieldDeclaration}
    {rest : List FieldDeclaration} {leaf : LeafPath} :
    LeadsTo metadata (field :: rest) leaf ↔
      LeadsTo metadata [field] leaf ∨ LeadsTo metadata rest leaf := by
  constructor
  · intro leads
    cases leads with
    | here member stored plain =>
      rcases List.mem_cons.mp member with same | tail
      · exact .inl (.here (by simp [same]) stored plain)
      · exact .inr (.here tail stored plain)
    | inside member stored embeds declared leads =>
      rcases List.mem_cons.mp member with same | tail
      · exact .inl (.inside (by simp [same]) stored embeds declared leads)
      · exact .inr (.inside tail stored embeds declared leads)
  · rintro (leads | leads)
    · cases leads with
      | here member stored plain => exact .here (by simp_all) stored plain
      | inside member stored embeds declared leads =>
        exact .inside (by simp_all) stored embeds declared leads
    · cases leads with
      | here member stored plain => exact .here (List.mem_cons_of_mem _ member) stored plain
      | inside member stored embeds declared leads =>
        exact .inside (List.mem_cons_of_mem _ member) stored embeds declared leads

theorem not_leadsTo_nil {metadata : Metadata} {leaf : LeafPath} : ¬ LeadsTo metadata [] leaf := by
  rintro (⟨⟨⟩⟩ | ⟨⟨⟩⟩)

theorem leadsTo_dropped {metadata : Metadata} {field : FieldDeclaration} {leaf : LeafPath}
    (unstored : ¬ field.Stored) : ¬ LeadsTo metadata [field] leaf := by
  rintro (⟨member, stored, _⟩ | ⟨member, stored, _, _, _⟩) <;>
    exact unstored (List.mem_singleton.mp member ▸ stored)

theorem leadsTo_plain {metadata : Metadata} {field : FieldDeclaration} {leaf : LeafPath}
    (stored : field.Stored) (plain : field.embedded = none) :
    LeadsTo metadata [field] leaf ↔ leaf = ⟨[], field⟩ := by
  constructor
  · intro leads
    cases leads with
    | here member _ _ => rw [List.mem_singleton.mp member]
    | inside member _ embeds _ _ => simp [← List.mem_singleton.mp member, embeds] at plain
  · rintro rfl
    exact .here (by simp) stored plain

theorem leadsTo_embedded {metadata : Metadata} {field : FieldDeclaration} {inner : Overrides}
    {decl : ClassDeclaration} {leaf : LeafPath} (stored : field.Stored)
    (embeds : field.embedded = some inner) (declared : metadata.class? field.type = some decl) :
    LeadsTo metadata [field] leaf ↔
      ∃ nested, LeadsTo metadata decl.fields nested ∧ leaf = nested.beneath field := by
  constructor
  · intro leads
    cases leads with
    | here member _ plain => simp [List.mem_singleton.mp member, embeds] at plain
    | @inside _ other _ otherDecl nested member _ _ otherDeclared leads =>
      have same := List.mem_singleton.mp member
      subst same
      rw [declared] at otherDeclared
      cases otherDeclared
      exact ⟨nested, leads, rfl⟩
  · rintro ⟨nested, leads, rfl⟩
    exact .inside (by simp) stored embeds declared leads

end EntityMapper
