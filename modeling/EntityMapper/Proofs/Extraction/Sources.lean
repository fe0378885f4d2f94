import EntityMapper.Extraction.Column
import EntityMapper.Proofs.Walk.Leaves

/-!
# Where the options of a field come from

For a field on its path from a level of the table, the overrides that may speak of it form a list:
the entry of the table's class, that of the level, and those of the embedded fields around it,
outermost first. Merging them takes each option from the first entry that sets it
(`optionsFor_eq_firstOf`), and names embedded fields the same way
(`enclosingFragments_eq_columnFragments`).
-/
namespace EntityMapper

/-- What the overrides of embedded fields say of a path through them, outermost first. The path
starts with the name of the first one, and each is asked for what remains below it. -/
def enclosingEntries : List FieldDeclaration → List String → List (Option ColumnOptions)
  | [], _ => []
  | field :: around, path =>
    (field.embedded.getD []).get? (Text.joinWith "." path.tail) ::
      enclosingEntries around path.tail

/-- What all overrides say of a path of `level` in a table of `root`, strongest first. The path
may end at an embedded field as well. -/
def LeafPath.entries (root level : ClassDeclaration) (leaf : LeafPath) :
    List (Option ColumnOptions) :=
  root.overrides.get? (Text.joinWith "." leaf.names) ::
    (if level.name = root.name then []
      else [level.overrides.get? (Text.joinWith "." leaf.names)])
    ++ enclosingEntries leaf.around leaf.names

/-- The first value that a list of sources sets. -/
def firstSet (option : ColumnOptions → Option String) (sources : List (Option ColumnOptions)) :
    Option String :=
  sources.findSome? (·.bind option)

/-- Each option from the first source that sets it. -/
def ColumnOptions.firstOf (sources : List (Option ColumnOptions)) : ColumnOptions where
  name := firstSet (·.name) sources
  sqlType := firstSet (·.sqlType) sources
  converter := firstSet (·.converter) sources
  strategy := firstSet (·.strategy) sources

/-- What the embedded fields `around` contribute to column names when the fields `before` are
around them: an overriding name, a declared name, or their own. -/
def columnFragments (root level : ClassDeclaration) :
    (before around : List FieldDeclaration) → List String
  | _, [] => []
  | before, field :: around =>
    (firstSet (·.name) (LeafPath.entries root level ⟨before, field⟩ ++ [field.column])).getD
        field.name :: columnFragments root level (before ++ [field]) around

/-- Layers opened along a path find what its embedded fields say of it. -/
theorem map_find?_enclosingLayers (outer : List String) (around : List FieldDeclaration)
    (path : List String) (longer : around.length < path.length) :
    (enclosingLayers outer.length around).map (·.find? (outer ++ path)) =
      enclosingEntries around path := by
  induction around generalizing outer path with
  | nil => rfl
  | cons field around ih =>
    cases path with
    | nil => simp at longer
    | cons name below =>
      have shorter : around.length < below.length := by simpa using longer
      have deep : ¬ (outer ++ name :: below).length ≤ outer.length + 1 := by
        simp only [List.length_append, List.length_cons]
        omega
      have remains : (outer ++ name :: below).drop (outer.length + 1) = below := by
        simp [List.drop_append]
      have first : OverrideLayer.find? ⟨field.embedded.getD [], outer.length + 1⟩
          (outer ++ name :: below) =
            (field.embedded.getD []).get? (Text.joinWith "." below) := by
        rw [OverrideLayer.find?, if_neg deep, remains]
      have rest := ih (outer ++ [name]) below shorter
      simp only [List.length_append, List.length_singleton, List.append_assoc,
        List.singleton_append] at rest
      rw [enclosingLayers, enclosingEntries, List.map_cons, first, rest, List.tail_cons]

theorem enclosingLayers_append (depth : Nat) (before around : List FieldDeclaration) :
    enclosingLayers depth (before ++ around) =
      enclosingLayers depth before ++ enclosingLayers (depth + before.length) around := by
  induction before generalizing depth with
  | nil => simp [enclosingLayers]
  | cons field before ih =>
    simp only [List.cons_append, enclosingLayers, ih, List.length_cons]
    congr 3
    omega

/-- The layers along a path of a level find its entries. -/
theorem map_find?_levelFrame (root level : ClassDeclaration) (leaf : LeafPath) :
    ((levelFrame level root).layers ++ enclosingLayers 0 leaf.around).map (·.find? leaf.names) =
      leaf.entries root level := by
  have here (overrides : Overrides) : OverrideLayer.find? ⟨overrides, 0⟩ leaf.names =
      overrides.get? (Text.joinWith "." leaf.names) := by
    simp [OverrideLayer.find?, LeafPath.names]
  have enclosing := map_find?_enclosingLayers [] leaf.around leaf.names (by simp [LeafPath.names])
  simp only [List.length_nil, List.nil_append] at enclosing
  by_cases same : level.name = root.name <;>
    simp [levelFrame, LeafPath.entries, same, here, enclosing]

/-- Merging takes an option from the first layer that sets it. -/
theorem mergedOverride_bind (option : ColumnOptions → Option String)
    (chooses : ∀ upper lower, option (.orElse upper lower) = (option upper <|> option lower))
    (layers : List OverrideLayer) (path : List String) :
    (mergedOverride layers path).bind option =
      firstSet option (layers.map (·.find? path)) := by
  unfold firstSet
  induction layers with
  | nil => rfl
  | cons layer weaker ih =>
    rw [List.map_cons, List.findSome?_cons, ← ih, mergedOverride]
    cases layer.find? path with
    | none => rfl
    | some upper =>
      cases merged : mergedOverride weaker path with
      | none =>
        simp only [Option.bind_some, Option.bind_none]
        cases option upper <;> rfl
      | some lower =>
        simp only [Option.bind_some, chooses]
        cases option upper <;> rfl

/-- Something is merged exactly when a layer has an entry. -/
theorem mergedOverride_isSome (layers : List OverrideLayer) (path : List String) :
    (mergedOverride layers path).isSome = (layers.map (·.find? path)).any Option.isSome := by
  induction layers with
  | nil => rfl
  | cons layer weaker ih =>
    rw [List.map_cons, List.any_cons, ← ih, mergedOverride]
    cases layer.find? path <;> cases mergedOverride weaker path <;> rfl

theorem firstSet_append_singleton (option : ColumnOptions → Option String)
    (sources : List (Option ColumnOptions)) (last : Option ColumnOptions) :
    firstSet option (sources ++ [last]) = (firstSet option sources <|> last.bind option) := by
  simp only [firstSet, List.findSome?_append, List.findSome?_singleton]
  cases List.findSome? (·.bind option) sources <;> rfl

theorem bind_overridesFor (option : ColumnOptions → Option String)
    (chooses : ∀ upper lower, option (.orElse upper lower) = (option upper <|> option lower))
    (root level : ClassDeclaration) (leaf : LeafPath) :
    ((levelFrame level root).overridesFor leaf).bind option =
      firstSet option (leaf.entries root level) := by
  rw [← map_find?_levelFrame, ← mergedOverride_bind option chooses]
  rfl

/-- Something is said of a leaf exactly when one of its sources has an entry. -/
theorem isSome_overridesFor (root level : ClassDeclaration) (leaf : LeafPath) :
    ((levelFrame level root).overridesFor leaf).isSome =
      (leaf.entries root level).any Option.isSome := by
  rw [← map_find?_levelFrame, ← mergedOverride_isSome]
  rfl

/-- The options in force for a leaf take each option from the first source that sets it; what the
field itself declares comes last. -/
theorem optionsFor_eq_firstOf (root level : ClassDeclaration) (leaf : LeafPath) :
    ColumnFrame.optionsFor leaf.field ((levelFrame level root).overridesFor leaf) =
      .firstOf (leaf.entries root level ++ [leaf.field.column]) := by
  have options (option : ColumnOptions → Option String) (unset : option .unset = none)
      (chooses : ∀ upper lower,
        option (.orElse upper lower) = (option upper <|> option lower)) :
      option (ColumnFrame.optionsFor leaf.field ((levelFrame level root).overridesFor leaf)) =
        firstSet option (leaf.entries root level ++ [leaf.field.column]) := by
    rw [firstSet_append_singleton, ← bind_overridesFor option chooses]
    cases (levelFrame level root).overridesFor leaf <;> cases declared : leaf.field.column <;>
      simp [ColumnFrame.optionsFor, unset, chooses, declared]
  rw [ColumnOptions.firstOf, ← options (·.name) rfl (fun _ _ => rfl),
    ← options (·.sqlType) rfl (fun _ _ => rfl), ← options (·.converter) rfl (fun _ _ => rfl),
    ← options (·.strategy) rfl (fun _ _ => rfl)]

/-- Embedded fields contribute to column names what their sources say. -/
theorem enclosingFragments_eq_columnFragments (root level : ClassDeclaration)
    (before around : List FieldDeclaration) :
    enclosingFragments ((levelFrame level root).layers ++ enclosingLayers 0 before)
        (before.map (·.name)) around = columnFragments root level before around := by
  induction around generalizing before with
  | nil => rfl
  | cons field around ih =>
    have named := bind_overridesFor (·.name) (fun _ _ => rfl) root level ⟨before, field⟩
    have deeper : enclosingLayers 0 (before ++ [field]) =
        enclosingLayers 0 before ++ [⟨field.embedded.getD [], before.length + 1⟩] := by
      simp [enclosingLayers_append, enclosingLayers]
    have rest := ih (before ++ [field])
    rw [deeper, List.map_append, List.map_singleton, ← List.append_assoc] at rest
    rw [enclosingFragments, columnFragments, ← rest, List.length_map, firstSet_append_singleton,
      ← named]
    rfl

end EntityMapper
