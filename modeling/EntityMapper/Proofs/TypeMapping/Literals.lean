import EntityMapper.Extraction.Column
import EntityMapper.Proofs.Text.Respelling
import EntityMapper.Proofs.Text.Segments
import EntityMapper.Proofs.TypeMapping.Lookup

/-!
# Literals that a dialect knows

Two SQL type literals are looked up alike exactly if one becomes the other by changes of spelling and by
cutting off, or putting on, what follows a parenthesis (`literalWords_eq_iff`). So a dialect also knows
literals that go on behind the parenthesis in whatever way: a literal that it knows is a registered one
with a size behind only if what follows the first parenthesis happens to be a size (`known_literals`).
-/
namespace EntityMapper

namespace Text

theorem toLower_eq_paren {c : Char} : c.toLower = '(' ↔ c = '(' := by
  by_cases ascii : c.toNat < asciiLimit
  · exact forall_ascii (p := fun c => c.toLower = '(' ↔ c = '(') (by decide) c ascii
  · rw [toLower_of_not_ascii ascii]

theorem not_mem_of_blank {run : List Char} (blank : ∀ c ∈ run, isBlank c = true) : '(' ∉ run :=
  fun member => absurd (blank '(' member) (by decide)

/-- A change of spelling happens on one side of the first parenthesis. -/
theorem Respelled.beforeFirst {a b : List Char} (change : Respelled a b) :
    SameSpelling (Text.beforeFirst '(' a) (Text.beforeFirst '(' b) := by
  cases change with
  | @case before after c d same =>
    by_cases met : '(' ∈ before
    · rw [beforeFirst_append, beforeFirst_append, if_pos met, if_pos met]
      exact .refl _
    · rw [beforeFirst_append, beforeFirst_append, if_neg met, if_neg met]
      by_cases opens : c = '('
      · have also : d = '(' := by
          rw [← toLower_eq_paren, ← same, toLower_eq_paren]
          exact opens
        rw [opens, also]
        exact .refl _
      · have neither : d ≠ '(' := by
          rw [Ne, ← toLower_eq_paren, ← same, toLower_eq_paren]
          exact opens
        have kept (e : Char) (other : e ≠ '(') :
            Text.beforeFirst '(' (e :: after) = e :: Text.beforeFirst '(' after :=
          List.takeWhile_cons_of_pos (by simpa using other)
        rw [kept c opens, kept d neither]
        exact .of_respelled (.case _ _ same)
  | @gap before after run other filled also blank =>
    have first := not_mem_of_blank fun c member => blank c (List.mem_append_left _ member)
    have second := not_mem_of_blank fun c member => blank c (List.mem_append_right _ member)
    rw [beforeFirst_append _ before (run ++ after), beforeFirst_append _ before (other ++ after)]
    by_cases met : '(' ∈ before
    · rw [if_pos met, if_pos met]
      exact .refl _
    · rw [if_neg met, if_neg met, beforeFirst_append _ run after, beforeFirst_append _ other after,
        if_neg first, if_neg second]
      exact .of_respelled (.gap _ _ filled also blank)
  | lead blank =>
    rw [beforeFirst_append, if_neg (not_mem_of_blank blank)]
    exact .of_respelled (.lead blank _)
  | @trail _ run blank =>
    rw [beforeFirst_append]
    by_cases met : '(' ∈ b
    · rw [if_pos met]
      exact .refl _
    · have whole : Text.beforeFirst '(' run = run := beforeFirst_of_not_mem (not_mem_of_blank blank)
      rw [if_neg met, whole, beforeFirst_of_not_mem met]
      exact .of_respelled (.trail _ blank)

/-- Parentheses are no matter of spelling. -/
theorem Respelled.paren_mem_iff {a b : List Char} (change : Respelled a b) : '(' ∈ a ↔ '(' ∈ b := by
  cases change with
  | @case before after c d same =>
    have alike : '(' = c ↔ '(' = d := by
      rw [eq_comm, ← toLower_eq_paren, same, toLower_eq_paren, eq_comm]
    simp only [List.mem_append, List.mem_cons, alike]
  | @gap before after run other filled also blank =>
    have first := not_mem_of_blank fun c member => blank c (List.mem_append_left _ member)
    have second := not_mem_of_blank fun c member => blank c (List.mem_append_right _ member)
    simp only [List.mem_append, first, second, false_or]
  | lead blank => simp only [List.mem_append, not_mem_of_blank blank, false_or]
  | trail _ blank => simp only [List.mem_append, not_mem_of_blank blank, or_false]

theorem SameSpelling.paren_mem_iff {a b : List Char} (same : SameSpelling a b) :
    '(' ∈ a ↔ '(' ∈ b := by
  induction same with
  | rel a b change => exact change.paren_mem_iff
  | refl a => rfl
  | symm a b _ ih => exact ih.symm
  | trans a b c _ _ first second => exact first.trans second

end Text

open Text (beforeFirst fromFirst SameSpelling)

/-- One difference that looking up a literal does not see. -/
inductive LiteralVaried : List Char → List Char → Prop where
  | respelled {a b : List Char} (change : Text.Respelled a b) : LiteralVaried a b
  | cut (before tail : List Char) : LiteralVaried (before ++ '(' :: tail) before

theorem literalWords_eq (literal : String) :
    literalWords literal = Text.lowerWords (beforeFirst '(' literal.toList) :=
  rfl

theorem LiteralVaried.lowerWords {a b : List Char} (change : LiteralVaried a b) :
    Text.lowerWords (beforeFirst '(' a) = Text.lowerWords (beforeFirst '(' b) := by
  cases change with
  | respelled change => exact change.beforeFirst.lowerWords
  | cut _ tail =>
    rw [Text.beforeFirst_append]
    by_cases met : '(' ∈ b
    · rw [if_pos met]
    · have opened : beforeFirst '(' ('(' :: tail) = [] := rfl
      rw [if_neg met, opened, List.append_nil, Text.beforeFirst_of_not_mem met]

/-- What may follow a registered literal: nothing, or one closed group with a size in it and then blanks. -/
inductive EndsWithSize (sizes : List Char → Prop) : List Char → Prop where
  | bare : EndsWithSize sizes []
  | group {size blanks : List Char} (isSize : sizes size) (unopened : '(' ∉ size)
    (unclosed : ')' ∉ size) (blank : ∀ c ∈ blanks, Text.isBlank c = true) :
    EndsWithSize sizes ('(' :: (size ++ ')' :: blanks))

namespace EndsWithSize

variable {sizes : List Char → Prop} {tail : List Char}

theorem eq_nil_or (ends : EndsWithSize sizes tail) : tail = [] ∨ ∃ rest, tail = '(' :: rest := by
  cases ends with
  | bare => exact .inl rfl
  | group => exact .inr ⟨_, rfl⟩

/-- The group is closed, and no word follows it. -/
theorem last (ends : EndsWithSize sizes tail) {c : Char} (final : tail.getLast? = some c) :
    c = ')' ∨ Text.isBlank c = true := by
  cases ends with
  | bare => cases final
  | @group size blanks _ _ _ blank =>
    rw [← List.cons_append, List.getLast?_append_cons] at final
    rcases List.mem_cons.mp (List.mem_of_getLast? final) with closing | behind
    · exact .inl closing
    · exact .inr (blank c behind)

end EndsWithSize

namespace Dialect

/-- The literal spells one of the dialect's own, with a size behind it or without. -/
def Spells (dialect : Dialect) (sizes : List Char → Prop) (literal : String) : Prop :=
  ∃ row ∈ dialect.rows, ∃ base tail, literal.toList = base ++ tail ∧
    SameSpelling base row.sql.toList ∧ EndsWithSize sizes tail

variable {dialect : Dialect} {literal : String}

/-- Of a registered literal without parentheses, nothing is cut off. -/
theorem literalWords_eq_iff_base {sql : String} (unopened : '(' ∉ sql.toList) :
    literalWords sql = literalWords literal ↔
      SameSpelling (beforeFirst '(' literal.toList) sql.toList := by
  rw [literalWords_eq, literalWords_eq, Text.beforeFirst_of_not_mem unopened, eq_comm,
    Text.lowerWords_eq_iff]

/-- What follows the literal that is spelled begins at the first parenthesis. -/
theorem spells_iff (unopened : ∀ row ∈ dialect.rows, '(' ∉ row.sql.toList)
    (sizes : List Char → Prop) :
    dialect.Spells sizes literal ↔
      (∃ row ∈ dialect.rows, SameSpelling (beforeFirst '(' literal.toList) row.sql.toList) ∧
        EndsWithSize sizes (fromFirst '(' literal.toList) := by
  constructor
  · rintro ⟨row, listed, base, tail, split, same, ends⟩
    have closed : '(' ∉ base := fun met => unopened row listed (same.paren_mem_iff.mp met)
    obtain ⟨cut, kept⟩ := Text.cut_at_first closed ends.eq_nil_or
    rw [split, cut, kept]
    exact ⟨⟨row, listed, same⟩, ends⟩
  · rintro ⟨⟨row, listed, same⟩, ends⟩
    have split := Text.beforeFirst_append_fromFirst '(' literal.toList
    exact ⟨row, listed, _, _, split.symm, same, ends⟩

end Dialect

/-- A column keeps the literal that is set for it if the dialect knows it. -/
theorem ColumnFrame.sqlType_literal {frame : ColumnFrame} {dialect : Dialect}
    (routed : frame.mapping.types.dialect? frame.dialect = some dialect) (literal : String)
    (converter : Option Converter) (type : FieldType) (sql : String) :
    frame.sqlType (some literal) converter type = .ok sql ↔
      sql = literal ∧ ∃ key, dialect.fieldType literal = .ok key := by
  have alike (key : TypeKey) : frame.mapping.types.fieldType frame.dialect literal = .ok key ↔
      dialect.fieldType literal = .ok key := by
    rw [DialectRouter.fieldType_eq_ok, routed, Option.bind_some, Dialect.fieldType_eq_ok]
  simp only [← alike]
  rw [sqlType]
  cases frame.mapping.types.fieldType frame.dialect literal with
  | error failure => simp [Bind.bind, Except.bind]
  | ok key => simp [Bind.bind, Except.bind, Pure.pure, Except.pure, eq_comm]

/-- A dialect knows a literal, and a column takes it, exactly if what stands before its first parenthesis
spells one of the dialect's own. The rest is not read, so it alone decides whether the literal as a whole
spells one with a size behind. -/
theorem known_literals {dialect : Dialect}
    (unopened : ∀ row ∈ dialect.rows, '(' ∉ row.sql.toList) (literal : String) :
    ((∃ key, dialect.fieldType literal = .ok key) ↔
      ∃ row ∈ dialect.rows, SameSpelling (beforeFirst '(' literal.toList) row.sql.toList) ∧
    (∀ sizes, dialect.Spells sizes literal ↔
      (∃ key, dialect.fieldType literal = .ok key) ∧
        EndsWithSize sizes (fromFirst '(' literal.toList)) ∧
    ∀ frame : ColumnFrame, frame.mapping.types.dialect? frame.dialect = some dialect →
      ∀ converter type sql, frame.sqlType (some literal) converter type = .ok sql ↔
        sql = literal ∧ ∃ key, dialect.fieldType literal = .ok key := by
  have known : (∃ key, dialect.fieldType literal = .ok key) ↔
      ∃ row ∈ dialect.rows, SameSpelling (beforeFirst '(' literal.toList) row.sql.toList := by
    simp only [Dialect.fieldType_eq_ok]
    rw [Dialect.exists_fieldType?_iff]
    exact exists_congr fun row => and_congr_right fun listed =>
      Dialect.literalWords_eq_iff_base (unopened row listed)
  refine ⟨known, fun sizes => ?_, fun frame routed => ?_⟩
  · rw [known, Dialect.spells_iff unopened]
  · exact ColumnFrame.sqlType_literal routed literal

/-- A number of characters in parentheses is a size. -/
theorem sizedVarchar_spelled :
    (∀ row ∈ Dialect.standard.rows, '(' ∉ row.sql.toList) ∧
      Dialect.standard.Spells (·.all Char.isDigit = true) "VARCHAR (255)" := by
  have unopened : ∀ row ∈ Dialect.standard.rows, '(' ∉ row.sql.toList := by decide
  have found : Dialect.standard.fieldType "VARCHAR (255)" = .ok (.named "java.lang.String") := by
    decide
  have size : EndsWithSize (·.all Char.isDigit = true) ('(' :: (['2', '5', '5'] ++ ')' :: [])) :=
    .group (by decide) (by decide) (by decide) (List.forall_mem_nil _)
  exact ⟨unopened, ((known_literals unopened _).2.1 _).mpr ⟨⟨_, found⟩, size⟩⟩

/-- Known are also a group that is not closed and words behind a group, which make another type. -/
theorem openedVarchar_known :
    (∀ row ∈ Dialect.standard.rows, '(' ∉ row.sql.toList ∧ ')' ∉ row.sql.toList) ∧
      Dialect.standard.fieldType "varchar(255" = .ok (.named "java.lang.String") ∧
      (∀ sizes, ¬ Dialect.standard.Spells sizes "varchar(255") ∧
      Dialect.standard.fieldType "timestamp(3) with time zone" =
        .ok (.named "java.time.LocalDateTime") ∧
      ∀ sizes, ¬ Dialect.standard.Spells sizes "timestamp(3) with time zone" := by
  have closed : ∀ row ∈ Dialect.standard.rows, '(' ∉ row.sql.toList ∧ ')' ∉ row.sql.toList := by
    decide
  have unopened : ∀ row ∈ Dialect.standard.rows, '(' ∉ row.sql.toList := fun row listed =>
    (closed row listed).1
  refine ⟨closed, by decide, fun sizes spelled => ?_, by decide, fun sizes spelled => ?_⟩
  · obtain ⟨_, ends⟩ := (Dialect.spells_iff unopened sizes).mp spelled
    exact absurd (ends.last (c := '5') (by decide)) (by decide)
  · obtain ⟨_, ends⟩ := (Dialect.spells_iff unopened sizes).mp spelled
    exact absurd (ends.last (c := 'e') (by decide)) (by decide)

end EntityMapper
