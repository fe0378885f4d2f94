import EntityMapper.Proofs.Extraction.Constants
import EntityMapper.Proofs.Extraction.Precedence
import EntityMapper.Proofs.Naming.Joining

/-!
# Prefixes of flattened columns

What a built-in strategy makes of two lists of fragments is joined from what it makes of each. So a
flattened column that no entry renames begins with the name of the embedded fields around it. And
fragments of ASCII letters and digits make a name of one case, tidy and spelled as they are
(`fragments_join`).
-/
namespace EntityMapper

/-- Whatever its own name, the column begins with that of the embedded fields around. -/
theorem ColumnFrame.Follows.begins {frame : ColumnFrame} {root level : ClassDeclaration}
    {leaf : LeafPath} {column : Column} (follows : frame.Follows root level leaf column)
    {case : LetterCase}
    (chosen : frame.strategyFor (.firstOf (leaf.sources root level)) = .ok case.snake)
    (free : firstSet (·.name) (leaf.entries root level) = none) :
    (case.snake.resolve (columnFragments root level [] leaf.around)).toList <+:
      column.name.toList := by
  obtain ⟨strategy, found, named⟩ := follows.name
  obtain rfl : case.snake = strategy := Except.ok.inj (chosen.symm.trans found)
  rw [named, LeafPath.columnName, free]
  exact case.resolve_prefix _ _

/-- A built-in strategy joins the names of two lists of fragments by one `_` if neither is empty. So
in any table, a column that no entry renames begins with the name of the embedded fields around, and
over the standard catalog each column has a built-in strategy. For fragments of ASCII letters and
digits the name is of one case and tidy, and without `_` it is their text in that case. -/
theorem fragments_join :
    (∀ (case : LetterCase) (first second : List String),
      case.snake.resolve (first ++ second) =
        joinNames (case.snake.resolve first) (case.snake.resolve second)) ∧
    (∀ (mapping : Mapping) (decl : ClassDeclaration) (options : TableOptions) (parent : Scope)
        (table : Table), mapping.buildIn decl options parent = .ok table →
      ∃ placed, mapping.tableScope decl options parent = .ok placed ∧
        ∀ column ∈ table.columns, ∃ level ∈ lineage mapping.metadata decl options.inheritance,
          ∃ leaf, LeadsTo mapping.metadata level.fields leaf ∧
            (mapping.columnFrame parent placed).Follows decl level leaf column ∧
            (∀ case : LetterCase,
              (mapping.columnFrame parent placed).strategyFor (.firstOf (leaf.sources decl level)) =
                .ok case.snake →
              firstSet (·.name) (leaf.entries decl level) = none →
              (case.snake.resolve (columnFragments decl level [] leaf.around)).toList <+:
                column.name.toList) ∧
            (mapping.strategies = .standard → mapping.baseScope = .ok parent →
              ∃ case : LetterCase, (mapping.columnFrame parent placed).strategyFor
                (.firstOf (leaf.sources decl level)) = .ok case.snake)) ∧
    ∀ (case : LetterCase) (fragments : List String),
      (∀ fragment ∈ fragments, ∀ c ∈ fragment.toList, c.isAlphanum = true) →
        case.Writes (case.snake.resolve fragments) ∧
        Tidy (case.snake.resolve fragments).toList ∧
        String.ofList ((case.snake.resolve fragments).toList.filter (· ≠ '_')) =
          case.text (String.join fragments) := by
  refine ⟨fun case => case.resolve_append, fun mapping decl options parent table built => ?_,
    fun case fragments plain => ⟨?_, case.tidy_resolve plain, case.erase_resolve plain⟩⟩
  · obtain ⟨placed, found, _, builds⟩ := Mapping.buildIn_buildsLeaf built
    refine ⟨placed, found, fun column member => ?_⟩
    obtain ⟨level, inLineage, leaf, reached, made⟩ := builds column member
    refine ⟨level, inLineage, leaf, reached, made.follows,
      fun case chosen free => made.follows.begins chosen free, fun standard based => ?_⟩
    obtain ⟨case, ofTable⟩ := Mapping.tableScope_standard standard based found
    obtain ⟨strategy, chosen, _⟩ := made.follows.name
    obtain ⟨own, rfl⟩ := ColumnFrame.strategyFor_standard standard ofTable chosen
    exact ⟨own, chosen⟩
  · refine case.writes_snake fragments (case.isAscii_snake fun fragment member c inside => ?_)
    exact Text.lt_asciiLimit_of_isAlphanum (plain fragment member c inside)

/-- Each column of the detour that no entry renames begins with the name of the stop and the spot
around. The name of `geoSpot2` and `x` is tidy and spelled as they are. -/
theorem detour_columns_begin :
    ∃ base table, (Mapping.ofMetadata detourClasses).baseScope = .ok base ∧
      (Mapping.ofMetadata detourClasses).buildIn detour detourOptions base = .ok table ∧
      (∃ placed, ∀ column ∈ table.columns, ∃ level ∈ lineage detourClasses detour true, ∃ leaf,
        LeadsTo detourClasses level.fields leaf ∧
          ((Mapping.ofMetadata detourClasses).columnFrame base placed).Follows detour level leaf
            column ∧
          ∃ case : LetterCase, firstSet (·.name) (leaf.entries detour level) = none →
            (case.snake.resolve (columnFragments detour level [] leaf.around)).toList <+:
              column.name.toList) ∧
      Tidy (LetterCase.lower.snake.resolve ["geoSpot2", "x"]).toList ∧
      String.ofList ((LetterCase.lower.snake.resolve ["geoSpot2", "x"]).toList.filter (· ≠ '_')) =
        "geospot2x" := by
  obtain ⟨base, based, made⟩ := exists_ok_and
    (show ((Mapping.ofMetadata detourClasses).baseScope.toOption.any fun base =>
        ((Mapping.ofMetadata detourClasses).buildIn detour detourOptions base).isOk) = true by
      decide +kernel)
  obtain ⟨table, built⟩ := exists_eq_ok made
  obtain ⟨_, prefixed, clean⟩ := fragments_join
  obtain ⟨placed, _, columns⟩ :=
    prefixed (.ofMetadata detourClasses) detour detourOptions base table built
  obtain ⟨_, tidy, erased⟩ := clean .lower ["geoSpot2", "x"] (by simp)
  refine ⟨base, table, based, built, ⟨placed, fun column member => ?_⟩, tidy,
    erased.trans (by decide +kernel)⟩
  obtain ⟨level, inLineage, leaf, reached, follows, begins, builtIn⟩ := columns column member
  obtain ⟨case, chosen⟩ := builtIn rfl based
  exact ⟨level, inLineage, leaf, reached, follows, case, begins case chosen⟩

example :
    let leaf : LeafPath := ⟨[detourStop, detourSpot], { name := "y", type := "double" }⟩
    firstSet (·.name) (leaf.entries detour detourRoute) = none ∧
      LetterCase.upper.snake.resolve (columnFragments detour detourRoute [] leaf.around) =
        "ORIGIN_PLACE" ∧
      leaf.columnName LetterCase.upper.snake detour detourRoute = "ORIGIN_PLACE_Y" := by
  decide +kernel

end EntityMapper
