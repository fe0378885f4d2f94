import EntityMapper.Proofs.Extraction.Constants
import EntityMapper.Proofs.Extraction.Precedence
import EntityMapper.Proofs.Manifest.Distinct
import EntityMapper.Proofs.Naming.Identifiers

/-!
# Constants of tables and columns as identifiers

Names of classes and fields are identifiers, names that options set may be anything. What the name of
a table or column was written from decides whether its constant is an identifier. Where all names are
ASCII and those that options set are identifiers, all constants are (`constants_identify`).
-/
namespace EntityMapper

/-- The text of the fragments that leave a trace, joined by `_`. -/
def joinedName (fragments : List String) : String :=
  Text.joinWith "_" (fragments.filter (· ≠ ""))

/-- A built-in strategy has written the name from the fragments, and the constant is an identifier
where the fragments are, mapped to the letter case of the strategy and to upper case. -/
def IdentifiesAs (name constant : String) (fragments : List String) : Prop :=
  ∃ case : LetterCase, name = case.snake.resolve fragments ∧
    Java.isIdentifier constant = Java.isIdentifier (Text.upper (case.text (joinedName fragments)))

theorem identifiesAs_resolve (case : LetterCase) (fragments : List String) :
    IdentifiesAs (case.snake.resolve fragments) (constantName (case.snake.resolve fragments))
      fragments :=
  ⟨case, rfl, isIdentifier_constantName_snake case fragments⟩

/-- An identifier in ASCII. -/
def IsPlainName (name : String) : Prop :=
  Java.isIdentifier name = true ∧ Text.IsAscii name

/-- Plain names joined by `_` are a plain name. -/
theorem isPlainName_joinedName {fragments : List String} (some : fragments ≠ [])
    (plain : ∀ fragment ∈ fragments, IsPlainName fragment) : IsPlainName (joinedName fragments) := by
  have kept : fragments.filter (· ≠ "") = fragments := by
    refine List.filter_eq_self.mpr fun fragment member => ?_
    simpa using Java.ne_empty_of_isIdentifier (plain fragment member).1
  have spelled := toList_joinWith_mark fragments
  have within (c : Char) (member : c ∈ (Text.joinWith "_" fragments).toList) :
      c = '_' ∨ ∃ fragment ∈ fragments, c ∈ fragment.toList := by
    rw [spelled] at member
    rcases Text.mem_intercalate member with mark | ⟨_, inParts, inPart⟩
    · exact .inl (List.mem_singleton.mp mark)
    · obtain ⟨fragment, inFragments, rfl⟩ := List.mem_map.mp inParts
      exact .inr ⟨fragment, inFragments, inPart⟩
  rw [joinedName, kept]
  refine ⟨Java.isIdentifier_iff.mpr ⟨?_, fun c member => ?_⟩, fun c member => ?_⟩
  · obtain ⟨first, rest, rfl⟩ := List.exists_cons_of_ne_nil some
    have identifier := (plain first List.mem_cons_self).1
    obtain ⟨tail, whole⟩ :=
      LetterCase.exists_intercalate_cons ['_'] first.toList (rest.map String.toList)
    have filled : first.toList ≠ [] := by simpa using Java.ne_empty_of_isIdentifier identifier
    rw [spelled, List.map_cons, whole, List.head?_append_of_ne_nil _ filled]
    exact (Java.isIdentifier_iff.mp identifier).1
  · rcases within c member with rfl | ⟨fragment, inFragments, inFragment⟩
    · decide
    · exact (Java.isIdentifier_iff.mp (plain fragment inFragments).1).2 c inFragment
  · rcases within c member with rfl | ⟨fragment, inFragments, inFragment⟩
    · decide
    · exact (plain fragment inFragments).2 c inFragment

/-- The constant of a name that is written from plain names is an identifier. -/
theorem IdentifiesAs.isIdentifier {name constant : String} {fragments : List String}
    (identifies : IdentifiesAs name constant fragments) (some : fragments ≠ [])
    (plain : ∀ fragment ∈ fragments, IsPlainName fragment) :
    Java.isIdentifier constant = true := by
  obtain ⟨case, _, decided⟩ := identifies
  obtain ⟨identifier, ascii⟩ := isPlainName_joinedName some plain
  rw [decided, isIdentifier_upper_text case ascii, identifier]

/-- What the name of a leaf path's column is written from: an overriding name alone, or what the
embedded fields around contribute and the declared name or that of the field. -/
def LeafPath.fragments (root level : ClassDeclaration) (leaf : LeafPath) : List String :=
  match firstSet (·.name) (leaf.entries root level) with
  | some name => [name]
  | none => columnFragments root level [] leaf.around ++
      [(leaf.field.column.bind (·.name)).getD leaf.field.name]

theorem LeafPath.columnName_eq_resolve (strategy : NamingStrategy) (root level : ClassDeclaration)
    (leaf : LeafPath) :
    leaf.columnName strategy root level = strategy.resolve (leaf.fragments root level) := by
  rw [columnName, fragments]
  cases firstSet (·.name) (leaf.entries root level) <;> rfl

instance (s : String) : Decidable (Text.IsAscii s) :=
  List.decidableBAll (fun c : Char => c.toNat < Text.asciiLimit) s.toList

instance (name : String) : Decidable (IsPlainName name) :=
  inferInstanceAs (Decidable (Java.isIdentifier name = true ∧ Text.IsAscii name))

/-- The options set no name but a plain one. -/
def ColumnOptions.NamedPlainly (options : ColumnOptions) : Prop :=
  ∀ name ∈ options.name, IsPlainName name

instance (options : ColumnOptions) : Decidable options.NamedPlainly :=
  inferInstanceAs (Decidable (∀ name ∈ options.name, IsPlainName name))

def Overrides.NamedPlainly (overrides : Overrides) : Prop :=
  ∀ entry ∈ overrides, entry.2.NamedPlainly

instance (overrides : Overrides) : Decidable overrides.NamedPlainly :=
  inferInstanceAs (Decidable (∀ entry ∈ overrides, entry.2.NamedPlainly))

structure FieldDeclaration.NamedPlainly (field : FieldDeclaration) : Prop where
  own : Text.IsAscii field.name
  column : ∀ options ∈ field.column, options.NamedPlainly
  overrides : ∀ inner ∈ field.embedded, Overrides.NamedPlainly inner

instance (field : FieldDeclaration) : Decidable field.NamedPlainly :=
  decidable_of_iff (Text.IsAscii field.name ∧
      (∀ options ∈ field.column, options.NamedPlainly) ∧
        ∀ inner ∈ field.embedded, Overrides.NamedPlainly inner)
    ⟨fun ⟨own, column, overrides⟩ => ⟨own, column, overrides⟩,
      fun ⟨own, column, overrides⟩ => ⟨own, column, overrides⟩⟩

/-- The class and its fields have ASCII names, and its options set no name but plain ones. -/
structure ClassDeclaration.NamedPlainly (decl : ClassDeclaration) : Prop where
  own : Text.IsAscii decl.name
  table : ∀ options ∈ decl.table, ∀ name ∈ options.name, IsPlainName name
  fields : ∀ field ∈ decl.fields, field.NamedPlainly
  overrides : Overrides.NamedPlainly decl.overrides

instance (decl : ClassDeclaration) : Decidable decl.NamedPlainly :=
  decidable_of_iff (Text.IsAscii decl.name ∧
      (∀ options ∈ decl.table, ∀ name ∈ options.name, IsPlainName name) ∧
        (∀ field ∈ decl.fields, field.NamedPlainly) ∧ Overrides.NamedPlainly decl.overrides)
    ⟨fun ⟨own, table, fields, overrides⟩ => ⟨own, table, fields, overrides⟩,
      fun ⟨own, table, fields, overrides⟩ => ⟨own, table, fields, overrides⟩⟩

/-- A name that some source sets is plain where all sources set plain names. -/
theorem isPlainName_of_firstSet {sources : List (Option ColumnOptions)}
    (plain : ∀ options, some options ∈ sources → options.NamedPlainly) {name : String}
    (found : firstSet (·.name) sources = some name) : IsPlainName name := by
  obtain ⟨source, member, sets⟩ := List.exists_of_findSome?_eq_some found
  obtain ⟨options, rfl, named⟩ := Option.bind_eq_some_iff.mp sets
  exact plain options member name named

theorem Overrides.NamedPlainly.get? {overrides : Overrides} (plain : overrides.NamedPlainly)
    {path : String} {options : ColumnOptions} (found : overrides.get? path = some options) :
    options.NamedPlainly :=
  plain (path, options) (Entries.mem_of_get? found)

theorem namedPlainly_of_mem_enclosingEntries {around : List FieldDeclaration}
    (plain : ∀ field ∈ around, field.NamedPlainly) {path : List String} {options : ColumnOptions}
    (member : some options ∈ enclosingEntries around path) : options.NamedPlainly := by
  induction around generalizing path with
  | nil => cases member
  | cons field around ih =>
    obtain ⟨first, others⟩ := List.forall_mem_cons.mp plain
    rcases List.mem_cons.mp member with here | deeper
    · cases embeds : field.embedded with
      | none => simp [embeds, Entries.get?] at here
      | some inner =>
        rw [embeds] at here
        exact (first.overrides inner embeds).get? here.symm
    · exact ih others deeper

section Fragments

variable {root level : ClassDeclaration} (ofRoot : root.NamedPlainly) (ofLevel : level.NamedPlainly)

include ofRoot ofLevel

/-- All sources of a leaf path set plain names. -/
theorem namedPlainly_of_mem_entries {leaf : LeafPath}
    (around : ∀ field ∈ leaf.around, field.NamedPlainly) {options : ColumnOptions}
    (member : some options ∈ leaf.entries root level) : options.NamedPlainly := by
  rw [LeafPath.entries, List.mem_append, List.mem_cons] at member
  rcases member with (ofRootEntry | ofLevelEntry) | enclosing
  · exact ofRoot.overrides.get? ofRootEntry.symm
  · split at ofLevelEntry
    · cases ofLevelEntry
    · exact ofLevel.overrides.get? (List.mem_singleton.mp ofLevelEntry).symm
  · exact namedPlainly_of_mem_enclosingEntries around enclosing

/-- Embedded fields contribute plain names. -/
theorem isPlainName_of_mem_columnFragments {before around : List FieldDeclaration}
    (outer : ∀ field ∈ before, field.NamedPlainly) (inner : ∀ field ∈ around, field.NamedPlainly)
    (identifiers : ∀ field ∈ around, Java.isIdentifier field.name = true) {fragment : String}
    (member : fragment ∈ columnFragments root level before around) : IsPlainName fragment := by
  induction around generalizing before with
  | nil => cases member
  | cons field around ih =>
    obtain ⟨first, others⟩ := List.forall_mem_cons.mp inner
    obtain ⟨identifier, otherIdentifiers⟩ := List.forall_mem_cons.mp identifiers
    rcases List.mem_cons.mp member with rfl | deeper
    · cases found : firstSet (·.name)
          (LeafPath.entries root level ⟨before, field⟩ ++ [field.column]) with
      | none => exact ⟨identifier, first.own⟩
      | some name =>
        refine isPlainName_of_firstSet (fun options source => ?_) found
        rcases List.mem_append.mp source with entry | declared
        · exact namedPlainly_of_mem_entries ofRoot ofLevel outer entry
        · exact first.column options (List.mem_singleton.mp declared).symm
    · refine ih (List.forall_mem_append.mpr ⟨outer, ?_⟩) others otherIdentifiers deeper
      simpa using first

/-- The name of a column is written from plain names. -/
theorem isPlainName_of_mem_fragments {leaf : LeafPath}
    (around : ∀ field ∈ leaf.around, field.NamedPlainly ∧ Java.isIdentifier field.name = true)
    (last : leaf.field.NamedPlainly ∧ Java.isIdentifier leaf.field.name = true) {fragment : String}
    (member : fragment ∈ leaf.fragments root level) : IsPlainName fragment := by
  have plain : ∀ field ∈ leaf.around, field.NamedPlainly := fun field member => (around field member).1
  rw [LeafPath.fragments] at member
  split at member
  · rename_i name found
    rw [List.mem_singleton.mp member]
    exact isPlainName_of_firstSet
      (fun _ => namedPlainly_of_mem_entries ofRoot ofLevel plain) found
  · rcases List.mem_append.mp member with contributed | own
    · exact isPlainName_of_mem_columnFragments ofRoot ofLevel (by simp) plain
        (fun field member => (around field member).2) contributed
    · rw [List.mem_singleton.mp own]
      cases declared : leaf.field.column.bind (·.name) with
      | none => exact ⟨last.2, last.1.own⟩
      | some name =>
        obtain ⟨options, given, named⟩ := Option.bind_eq_some_iff.mp declared
        exact last.1.column options given name named

end Fragments

/-- A table is called what its strategy makes of its declared name or of its class. -/
theorem Mapping.tableScope_name {mapping : Mapping} {decl : ClassDeclaration} {options : TableOptions}
    {parent : Scope} {placed : TableScope}
    (found : mapping.tableScope decl options parent = .ok placed) :
    placed.name = placed.strategy.resolve [options.name.getD (Java.simpleName decl.name)] := by
  simp only [tableScope, bind_eq_ok, pure_eq_ok] at found
  obtain ⟨schema, _, strategy, _, rfl⟩ := found
  rfl

/-- Over the standard catalog, a column is called what a built-in strategy makes of its fragments. -/
theorem ColumnFrame.Follows.identifiesAs {frame : ColumnFrame} {root level : ClassDeclaration}
    {leaf : LeafPath} {column : Column} (follows : frame.Follows root level leaf column)
    (standard : frame.mapping.strategies = .standard) {case : LetterCase}
    (ofTable : frame.strategy = case.snake) :
    IdentifiesAs column.name column.constant (leaf.fragments root level) := by
  obtain ⟨strategy, chosen, named⟩ := follows.name
  obtain ⟨own, rfl⟩ := strategyFor_standard standard ofTable chosen
  rw [Column.constant, named, LeafPath.columnName_eq_resolve]
  exact identifiesAs_resolve own (leaf.fragments root level)

theorem LeafPath.fragments_ne_nil (root level : ClassDeclaration) (leaf : LeafPath) :
    leaf.fragments root level ≠ [] := by
  rw [fragments]
  split <;> simp

/-- The constants of a table and its columns are identifiers where the names are that they were
written from, in upper case: the declared name of the table or that of its class, and the overriding
name of a column or what the embedded fields around and the field itself contribute. So all of them
are, whatever is embedded, inherited or overridden, if all names are ASCII and options set none but
identifiers. -/
theorem constants_identify (text file : String) (manifest : Manifest) (tables : List Table)
    (table : Table) (parsed : Manifest.parse text file = .ok manifest)
    (built : (Mapping.ofManifest manifest).tables = .ok tables) (member : table ∈ tables) :
    ∃ decl ∈ manifest.classes, ∃ options, decl.buildable? = some options ∧
      table.className = decl.name ∧
      IdentifiesAs table.name table.constant [options.name.getD (Java.simpleName decl.name)] ∧
      (∀ column ∈ table.columns, ∃ level ∈ lineage manifest.metadata decl options.inheritance,
        ∃ leaf, LeadsTo manifest.metadata level.fields leaf ∧ column.Stores leaf ∧
          IdentifiesAs column.name column.constant (leaf.fragments decl level)) ∧
      ((∀ other ∈ manifest.classes, other.NamedPlainly) →
        Java.isIdentifier table.constant = true ∧
          ∀ column ∈ table.columns, Java.isIdentifier column.constant = true) := by
  obtain ⟨base, based, built⟩ := bind_eq_ok.mp built
  obtain ⟨decl, declared, options, buildable, made⟩ := Mapping.exists_of_mem_tables built member
  obtain ⟨placed, found, called, builds⟩ := Mapping.buildIn_buildsLeaf made
  obtain ⟨case, ofTable⟩ := Mapping.tableScope_standard rfl based found
  have named : IdentifiesAs table.name table.constant
      [options.name.getD (Java.simpleName decl.name)] := by
    rw [Table.constant, called, Mapping.tableScope_name found, ofTable]
    exact identifiesAs_resolve case _
  refine ⟨decl, declared, options, buildable, Mapping.buildIn_className made, named,
    fun column inTable => ?_, fun plain => ⟨?_, fun column inTable => ?_⟩⟩
  · obtain ⟨level, inLineage, leaf, leads, follows⟩ := builds column inTable
    exact ⟨level, inLineage, leaf, leads, follows.stores, follows.follows.identifiesAs rfl ofTable⟩
  · refine named.isIdentifier (by simp) fun fragment inFragments => ?_
    rw [List.mem_singleton.mp inFragments]
    cases given : options.name with
    | none =>
      have qualified := (Manifest.parse_names parsed declared).1
      exact ⟨Java.isIdentifier_simpleName qualified, Java.isAscii_simpleName (plain decl declared).own⟩
    | some name =>
      have tabled : decl.table = some options := by
        rw [ClassDeclaration.buildable?] at buildable
        split at buildable
        · cases buildable
        · exact buildable
      exact (plain decl declared).table options tabled name given
  · obtain ⟨level, inLineage, leaf, leads, follows⟩ := builds column inTable
    have inClasses : level ∈ manifest.classes := mem_lineage declared inLineage
    have fields (other : ClassDeclaration) (among : other ∈ manifest.classes)
        (field : FieldDeclaration) (inFields : field ∈ other.fields) :
        field.NamedPlainly ∧ Java.isIdentifier field.name = true :=
      ⟨(plain other among).fields field inFields, (Manifest.parse_names parsed among).2 field inFields⟩
    obtain ⟨last, around⟩ := leads.forall_mem fields (fields level inClasses)
    exact (follows.follows.identifiesAs rfl ofTable).isIdentifier (leaf.fragments_ne_nil decl level)
      fun fragment => isPlainName_of_mem_fragments (plain decl declared) (plain level inClasses)
        around last

/-- A letter with a number and a place to go, both of them called otherwise in part. -/
def letterText : String := "[[classes]]
name='post.Letter'
table=['letters']
fields=[['id','long',false,false,['letter_id']],\x7bname='to',type='post.Place',embedded=true\x7d]
[classes.overrides.'to.zip']
name='zip_code'
[[classes]]
name='post.Place'
kind='embeddable'
fields=[['street','long'],['zip','long']]
"

def letterManifest : Manifest where
  classes := [
    { name := "post.Letter"
      table := some { name := some "letters" }
      fields := [
        { name := "id", type := "long", column := some { name := some "letter_id" } },
        { name := "to", type := "post.Place", embedded := some [] }]
      overrides := [("to.zip", { name := some "zip_code" })] },
    { name := "post.Place"
      kind := .embeddable
      fields := [{ name := "street", type := "long" }, { name := "zip", type := "long" }] }]

set_option maxRecDepth 4000 in
/-- All names of the letter are plain, and its constants are identifiers. -/
theorem letterManifest_identifies :
    Manifest.parse letterText "letters.toml" = .ok letterManifest ∧
      ∃ table, (Mapping.ofManifest letterManifest).tables = .ok [table] ∧
        table.columns.map (·.constant) = ["LETTER_ID", "TO_STREET", "ZIP_CODE"] ∧
        Java.isIdentifier table.constant = true ∧
          ∀ column ∈ table.columns, Java.isIdentifier column.constant = true := by
  have parsed : Manifest.parse letterText "letters.toml" = .ok letterManifest :=
    Manifest.parse_ofList (by decide +kernel) (by decide +kernel)
  obtain ⟨columns, made, listed⟩ := exists_ok_and
    (show ((Mapping.ofManifest letterManifest).columnsOf letterManifest.classes[0]
        { name := some "letters" }).toOption.any (fun columns =>
          columns.map (·.name) == ["letter_id", "to_street", "zip_code"]) = true by
      decide +kernel)
  have names := beq_iff_eq.mp listed
  have ascending : columns.Pairwise fun a b => a.name ≤ b.name :=
    List.pairwise_map.mp (names ▸ by decide +kernel)
  obtain ⟨table, built, rfl, _⟩ :=
    Mapping.tables_of_columnsOf rfl rfl (by decide) made ascending
  obtain ⟨_, _, _, _, _, _, _, identify⟩ := constants_identify letterText "letters.toml"
    letterManifest [table] table parsed built List.mem_cons_self
  refine ⟨parsed, table, built, ?_, identify (by decide +kernel)⟩
  have constants := congrArg (List.map constantName) names
  rw [List.map_map] at constants
  exact constants.trans (by decide +kernel)

/-- Items of orders, in a table with a hyphen. One column begins with a digit, and one is called by a
letter whose upper case is two characters. -/
def itemText : String := "[[classes]]
name='shop.Item'
table=['order-items']
fields=[['second','long',false,false,['2nd']],['ǰ','long']]
"

def itemManifest : Manifest where
  classes := [
    { name := "shop.Item"
      table := some { name := some "order-items" }
      fields := [
        { name := "second", type := "long", column := some { name := some "2nd" } },
        { name := "ǰ", type := "long" }] }]

/-- The constants of the items and of both columns are no identifiers. -/
theorem itemManifest_misses_identifiers :
    Manifest.parse itemText "items.toml" = .ok itemManifest ∧
      ∃ table, (Mapping.ofManifest itemManifest).tables = .ok [table] ∧
        table.mappingEnabled = true ∧ Java.isIdentifier table.constant = false ∧
        table.columns.length = 2 ∧
        ∀ column ∈ table.columns, Java.isIdentifier column.constant = false := by
  obtain ⟨columns, made, listed⟩ := exists_ok_and
    (show ((Mapping.ofManifest itemManifest).columnsOf itemManifest.classes[0]
        { name := some "order-items" }).toOption.any (fun columns =>
          columns.map (·.name) == ["2nd", "ǰ"]) = true by
      decide +kernel)
  have names := beq_iff_eq.mp listed
  have ascending : columns.Pairwise fun a b => a.name ≤ b.name :=
    List.pairwise_map.mp (names ▸ by decide +kernel)
  have count := congrArg List.length names
  rw [List.length_map] at count
  obtain ⟨table, built, rfl, enabled⟩ :=
    Mapping.tables_of_columnsOf rfl rfl (by simp) made ascending
  have called : table.name = "order-items" := by
    obtain ⟨base, based, made⟩ := bind_eq_ok.mp built
    obtain ⟨decl, declared, options, buildable, made⟩ :=
      Mapping.exists_of_mem_tables made List.mem_cons_self
    cases List.mem_singleton.mp declared
    cases buildable
    obtain ⟨placed, found, called, _⟩ := Mapping.buildIn_buildsLeaf made
    have name : ((Mapping.ofManifest itemManifest).baseScope.bind
        ((Mapping.ofManifest itemManifest).tableScope itemManifest.classes[0]
          { name := some "order-items" })).toOption.any (·.name == "order-items") = true := by
      decide +kernel
    obtain ⟨other, again, name⟩ := exists_ok_and name
    rw [based] at again
    cases found.symm.trans again
    exact called.trans (beq_iff_eq.mp name)
  have misses : ∀ name ∈ ["2nd", "ǰ"], Java.isIdentifier (constantName name) = false := by
    decide +kernel
  refine ⟨Manifest.parse_ofList (by decide +kernel) (by decide +kernel), table, built, enabled, ?_,
    count, fun column member => misses column.name (names ▸ List.mem_map_of_mem member)⟩
  rw [Table.constant, called]
  decide +kernel

end EntityMapper
