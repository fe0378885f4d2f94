import EntityMapper.Proofs.Manifest.Names
import EntityMapper.Proofs.Mapper.Layout
import EntityMapper.Storage.GeneratedFile

/-!
# What mapper files declare

A source names its package in its first line of code, if it does so, and then declares a class. Read back
like that, the text of a generated mapper tells the package it was written for
(`declaredPackage?_render`) and the class of the mapper (`declaredClass?_render`).
-/
namespace EntityMapper

open Source (Buffer Plain unlines unlines_append)

namespace Java

/-- The line is neither empty nor a comment. -/
def isCode (line : String) : Bool :=
  line ≠ "" && (Text.afterStart? "//".toList line.toList).isNone

/-- The package that the first line of code names. -/
def declaredPackage? (source : String) : Option String :=
  ((Text.segments '\n' source).find? isCode).bind fun line =>
    (Text.afterStart? "package ".toList line.toList).map fun rest =>
      String.ofList (Text.beforeFirst ';' rest)

/-- The word behind the first `class` in a line. -/
def classIn? (line : String) : Option String :=
  ((Text.segments ' ' line).dropWhile (· ≠ "class"))[1]?

/-- The class that is declared first. -/
def declaredClass? (source : String) : Option String :=
  (Text.segments '\n' source).findSome? classIn?

example :
    let source := "// Orders.\n\npackage shop.order;\n\npublic final class Line \x7b\n\x7d\n"
    declaredPackage? source = some "shop.order" ∧ declaredClass? source = some "Line" := by
  decide +kernel

theorem classIn?_eq_none {line : String} (without : "class" ∉ Text.segments ' ' line) :
    classIn? line = none := by
  have passed : (Text.segments ' ' line).dropWhile (· ≠ "class") = [] := by
    refine List.dropWhile_eq_nil_iff.mpr fun word member => ?_
    exact decide_eq_true fun same => without (same ▸ member)
  rw [classIn?, passed]
  rfl

end Java

namespace MapperFile

variable {file : MapperFile} {context : MapperContext} {table : Table}

/-- A declaration at the margin with an empty line behind it, whatever it says. -/
theorem writeAll_declaration (s text : String) :
    (⟨.spaces 4, 0, true, text⟩ : Buffer).writeAll (Source.line (s ++ ";") ++ [.blankLine]) =
      ⟨.spaces 4, 0, true, text ++ unlines [s ++ ";", ""]⟩ := by
  have inline : ∀ piece ∈ [Source.Piece.token (s ++ ";")], piece.IsInline := by
    simp [Source.Piece.IsInline]
  have filled : Source.content [.token (s ++ ";")] ≠ "" := by
    simp [Source.Piece.content]
  have start : (⟨.spaces 4, 0, true, text⟩ : Buffer).atLineStart = true := rfl
  have level : Source.levelAfter 0 [.token (s ++ ";")] = 0 := by
    simp [Source.levelAfter, Source.Piece.levelAfter, Source.opensBlock]
  rw [Buffer.writeAll_append, Source.line, ← List.singleton_append,
    Buffer.writeAll_line start inline filled, Buffer.writeAll_cons, Buffer.writeAll_nil,
    Buffer.write_blankLine, level]
  refine congrArg _ (String.toList_injective ?_)
  simp [Source.standsAt, Source.Piece.standsAt, Source.Indent.margin, Source.Piece.content, unlines]

/-- What a file imports, which may be more than one line. -/
def importLine (file : MapperFile) (table : Table) : String :=
  "import static " ++ file.tablesClass ++ "." ++ table.constant ++ ";"

theorem importLine_eq (file : MapperFile) (table : Table) :
    file.importLine table = "import static " ++ file.tablesClass ++ "." ++ (table.constant ++ ";") := by
  change "import static " ++ file.tablesClass ++ "." ++ table.constant ++ ";" = _
  simp only [String.append_assoc]

/-- The head of a file stands there as it is, whatever the file imports. -/
theorem text_headPieces (simpleName : Plain table.simpleClassName) :
    (Buffer.java.writeAll (file.headPieces table)).text = unlines (file.headLines table) := by
  have later (s text : String) : ((⟨.spaces 4, 0, true, text⟩ : Buffer).writeAll
      (Source.line (s ++ ";") ++ .blankLine ::
        ({ isFinal := true, name := className table } : Java.ClassHead).layout)).text =
      text ++ unlines [s ++ ";", "", "public final class " ++ className table ++ " \x7b"] := by
    rw [List.append_cons, Buffer.writeAll_append, writeAll_declaration,
      (lays_classHead simpleName).written, String.append_assoc, ← unlines_append, List.cons_append,
      List.cons_append, List.nil_append]
  rw [headPieces, headLines, List.append_assoc]
  split
  · exact (later _ "").trans String.empty_append
  · rw [Buffer.java, Buffer.new, Buffer.writeAll_append, writeAll_declaration, later, unlines_append,
      String.empty_append]

/-- Behind its head a file goes on. -/
theorem exists_render_append (file : MapperFile) (context : MapperContext)
    (simpleName : Plain table.simpleClassName) :
    ∃ body, file.render context table = unlines (file.headLines table) ++ body := by
  let opened := Buffer.java.writeAll (file.headPieces table)
  obtain ⟨parts, written⟩ : ∃ parts, (MapperPart.writeAll context table file.parts opened).text =
      opened.text ++ parts :=
    MapperPart.exists_text_writeFrom false file.parts opened
  obtain ⟨closing, closed⟩ :=
    (MapperPart.writeAll context table file.parts opened).exists_text_writeAll Java.closeBody
  refine ⟨parts ++ closing, ?_⟩
  rw [render_eq, closed, written, text_headPieces simpleName, String.append_assoc]

/-- The lines of a generated mapper up to the one that opens the class. -/
theorem exists_segments_render (file : MapperFile) (context : MapperContext)
    (simpleName : Plain table.simpleClassName) (package : '\n' ∉ (file.packageOf table).toList)
    (path : String) : ∃ body,
      Text.segments '\n' (GeneratedFile.render ⟨path, file.render context table⟩) =
        GeneratedFile.header ::
          ((if file.packageOf table = "" then [] else ["package " ++ file.packageOf table ++ ";", ""])
            ++ (Text.segments '\n' (file.importLine table)
              ++ "" :: ("public final class " ++ className table ++ " \x7b") :: body)) := by
  obtain ⟨body, rendered⟩ := file.exists_render_append context simpleName
  have classLine : '\n' ∉ ("public final class " ++ className table ++ " \x7b").toList := by
    simpa [className] using simpleName.not_mem
  have later : Text.segments '\n' (unlines [file.importLine table, "",
      "public final class " ++ className table ++ " \x7b"] ++ body) =
      Text.segments '\n' (file.importLine table) ++ "" ::
        ("public final class " ++ className table ++ " \x7b") :: Text.segments '\n' body := by
    have cut : unlines [file.importLine table, "",
        "public final class " ++ className table ++ " \x7b"] ++ body =
        String.ofList ((file.importLine table).toList ++ '\n' :: (unlines
          ["", "public final class " ++ className table ++ " \x7b"] ++ body).toList) := by
      apply String.toList_injective
      simp [unlines]
    rw [cut, Text.segments_append_cons, String.ofList_toList, String.ofList_toList,
      Source.segments_unlines_append (by simpa using classLine), List.cons_append, List.cons_append,
      List.nil_append]
  have head : file.headLines table =
      (if file.packageOf table = "" then [] else ["package " ++ file.packageOf table ++ ";", ""])
        ++ [file.importLine table, "", "public final class " ++ className table ++ " \x7b"] := rfl
  have header : '\n' ∉ GeneratedFile.header.toList := by decide
  refine ⟨Text.segments '\n' body, ?_⟩
  rw [GeneratedFile.render, Text.segments_line header, rendered, head]
  split
  · rw [List.nil_append, List.nil_append, later]
  · have packageLine : '\n' ∉ ("package " ++ file.packageOf table ++ ";").toList := by
      simpa using package
    rw [unlines_append, String.append_assoc,
      Source.segments_unlines_append (by simpa using packageLine), later]

/-- The package of a mapper may be declared, or is the unnamed one. -/
theorem packageOf_eq_or (declared : Java.IsClassName table.className)
    (given : ∀ package ∈ file.package, Java.IsClassName package) :
    file.packageOf table = "" ∨ Java.IsClassName (file.packageOf table) := by
  rw [packageOf]
  cases chosen : file.package with
  | none =>
    rw [Option.getD_none]
    exact or_iff_not_imp_left.mpr (Java.isClassName_packageName declared)
  | some package => exact .inr (given package chosen)

theorem plain_simpleClassName (declared : Java.IsClassName table.className) :
    Plain table.simpleClassName := by
  have own := (Java.isDeclarable_simpleName declared).1
  refine fun c member => ⟨?_, ?_, ?_⟩ <;> rintro rfl
  all_goals exact Java.not_mem_of_isIdentifier own (by decide) member

/-- The name of a mapper may be declared: no reserved word ends like it. -/
theorem isDeclarable_className (declared : Java.IsClassName table.className) :
    Java.IsDeclarable (className table) := by
  have identifier : Java.isIdentifier table.simpleClassName = true :=
    (Java.isDeclarable_simpleName declared).1
  obtain ⟨led, others⟩ := Java.isIdentifier_iff.mp identifier
  refine ⟨Java.isIdentifier_iff.mpr ⟨?_, fun c member => ?_⟩, ?_⟩
  · have filled : table.simpleClassName.toList ≠ [] := by
      simpa using Java.ne_empty_of_isIdentifier identifier
    rwa [className, String.toList_append, List.head?_append_of_ne_nil _ filled]
  · rw [className, String.toList_append, List.mem_append] at member
    rcases member with own | suffix
    · exact others c own
    · have continues : "Mapper".toList.all Java.continuesIdentifier = true := by decide
      exact List.all_eq_true.mp continues c suffix
  · have small : ∀ word ∈ Java.reservedWords, 'M' ∉ word.toList := by decide
    rw [Java.isReserved, ← Bool.not_eq_true, List.contains_iff_mem]
    exact fun reserved => small _ reserved (by simp [className])

/-- The import declares no class if what it imports from is one word. -/
theorem classIn?_importLine (blank : ' ' ∉ file.tablesClass.toList)
    (lineEnd : '\n' ∉ file.tablesClass.toList) {line : String}
    (member : line ∈ Text.segments '\n' (file.importLine table)) : Java.classIn? line = none := by
  -- All behind the first word of the constant is in upper case.
  have capital {part : String} (cut : part ∈ Text.segments '\n' (table.constant ++ ";")) :
      'c' ∉ part.toList := by
    intro small
    have within := Text.mem_of_mem_segment cut small
    rw [String.toList_append, List.mem_append] at within
    rcases within with inConstant | mark
    · exact absurd (isLowercase_of_mem_constantName inConstant (by decide)) (by decide)
    · exact absurd mark (by decide)
  have letter {s : String} (word : "class" ∈ Text.segments ' ' s) : 'c' ∈ s.toList :=
    Text.mem_of_mem_segment word (by decide)
  have inLine : '\n' ∉ ("import static " ++ file.tablesClass ++ ".").toList := by
    simpa using lineEnd
  have unbroken : ' ' ∉ (file.tablesClass ++ ".").toList := by
    simpa using blank
  obtain ⟨first, rest, cut, joined⟩ :=
    Text.segments_append_of_not_mem inLine (table.constant ++ ";")
  rw [importLine_eq, joined] at member
  refine Java.classIn?_eq_none fun word => ?_
  rcases List.mem_cons.mp member with rfl | later
  · obtain ⟨own, others, inFirst, words⟩ := Text.segments_append_of_not_mem unbroken first
    have spelled : "import static " ++ file.tablesClass ++ "." ++ first =
        "import" ++ " " ++ ("static" ++ " " ++ (file.tablesClass ++ "." ++ first)) := by
      apply String.toList_injective
      simp
    rw [spelled, Text.segments_word (by decide), Text.segments_word (by decide), words] at word
    simp only [List.mem_cons, String.reduceEq, false_or] at word
    rcases word with same | behind
    · have point : '.' ∈ "class".toList := by
        rw [same]
        simp
      exact absurd point (by decide)
    · exact capital (cut ▸ List.mem_cons_self) (letter (inFirst ▸ List.mem_cons_of_mem _ behind))
  · exact capital (cut ▸ List.mem_cons_of_mem _ later) (letter word)

theorem classIn?_classLine {name : String} (unbroken : ' ' ∉ name.toList) :
    Java.classIn? ("public final class " ++ name ++ " \x7b") = some name := by
  have spelled : "public final class " ++ name ++ " \x7b" =
      "public" ++ " " ++ ("final" ++ " " ++ ("class" ++ " " ++ (name ++ " " ++ "\x7b"))) := by
    apply String.toList_injective
    simp
  rw [Java.classIn?, spelled, Text.segments_word (by decide), Text.segments_word (by decide),
    Text.segments_word (by decide), Text.segments_word unbroken]
  simp

section Declared

variable (declared : Java.IsClassName table.className)
  (given : ∀ package ∈ file.package, Java.IsClassName package)

include declared given

theorem not_mem_packageOf {c : Char} (other : c ≠ '.') (foreign : Java.continuesIdentifier c = false) :
    c ∉ (file.packageOf table).toList := by
  rcases packageOf_eq_or declared given with unnamed | packaged
  · simp [unnamed]
  · exact packaged.not_mem other foreign

/-- A generated mapper names its package unless that is the unnamed one. -/
theorem declaredPackage?_render (context : MapperContext) (path : String) :
    Java.declaredPackage? (GeneratedFile.render ⟨path, file.render context table⟩) =
      if file.packageOf table = "" then none else some (file.packageOf table) := by
  obtain ⟨body, lines⟩ := file.exists_segments_render context (plain_simpleClassName declared)
    (not_mem_packageOf declared given (by decide) (by decide)) path
  have header : Java.isCode GeneratedFile.header = false := by decide
  rw [Java.declaredPackage?, lines, List.find?_cons, header]
  dsimp only
  split
  · obtain ⟨first, rest, _, joined⟩ := Text.segments_append_of_not_mem
      (show '\n' ∉ "import static ".toList by decide)
      (file.tablesClass ++ ("." ++ (table.constant ++ ";")))
    have code : Java.isCode ("import static " ++ first) = true := by
      simp [Java.isCode, Text.afterStart?]
    have unpackaged : Text.afterStart? "package ".toList ("import static " ++ first).toList = none := by
      rw [String.toList_append]
      rfl
    rw [List.nil_append, importLine_eq, String.append_assoc, String.append_assoc, joined, List.cons_append,
      List.find?_cons, code]
    dsimp only
    rw [Option.bind_some, unpackaged, Option.map_none]
  · have code : Java.isCode ("package " ++ file.packageOf table ++ ";") = true := by
      simp [Java.isCode, Text.afterStart?]
    have ended : Text.beforeFirst ';' ((file.packageOf table).toList ++ ";".toList) =
        (file.packageOf table).toList := by
      rw [Text.beforeFirst_append, if_neg (not_mem_packageOf declared given (by decide) (by decide))]
      simp [Text.beforeFirst]
    rw [List.cons_append, List.find?_cons, code]
    dsimp only
    rw [Option.bind_some, String.toList_append, String.toList_append, List.append_assoc,
      Text.afterStart?_append, Option.map_some, ended, String.ofList_toList]

/-- The package declares no class. -/
theorem classIn?_packageLine :
    Java.classIn? ("package " ++ file.packageOf table ++ ";") = none := by
  have unbroken : ' ' ∉ (file.packageOf table ++ ";").toList := by
    simpa using not_mem_packageOf declared given (by decide) (by decide)
  have spelled : "package " ++ file.packageOf table ++ ";" =
      "package" ++ " " ++ (file.packageOf table ++ ";") := by
    apply String.toList_injective
    simp
  refine Java.classIn?_eq_none fun word => ?_
  rw [spelled, Text.segments_word (by decide), Text.segments_of_not_mem unbroken] at word
  simp only [List.mem_cons, String.reduceEq, false_or, List.not_mem_nil, or_false] at word
  have mark : ';' ∈ "class".toList := by
    rw [word]
    simp
  exact absurd mark (by decide)

/-- The first class that a generated mapper declares is the mapper, if it imports from one word. -/
theorem declaredClass?_render (blank : ' ' ∉ file.tablesClass.toList)
    (lineEnd : '\n' ∉ file.tablesClass.toList) (context : MapperContext) (path : String) :
    Java.declaredClass? (GeneratedFile.render ⟨path, file.render context table⟩) =
      some (className table) := by
  obtain ⟨body, lines⟩ := file.exists_segments_render context (plain_simpleClassName declared)
    (not_mem_packageOf declared given (by decide) (by decide)) path
  have empty : Java.classIn? "" = none := by decide
  have package : ∀ line ∈ (if file.packageOf table = "" then []
      else ["package " ++ file.packageOf table ++ ";", ""]), Java.classIn? line = none := by
    split
    · exact List.forall_mem_nil _
    · simp [classIn?_packageLine declared given, empty]
  have imports : (Text.segments '\n' (file.importLine table)).findSome? Java.classIn? = none :=
    List.findSome?_eq_none_iff.mpr fun _ member => classIn?_importLine blank lineEnd member
  have header : Java.classIn? GeneratedFile.header = none := by decide
  have classLine := classIn?_classLine (Java.not_mem_of_isIdentifier
    (isDeclarable_className declared).1 (show Java.continuesIdentifier ' ' = false by decide))
  rw [Java.declaredClass?, lines, List.findSome?_cons_of_isNone (by simp [header]),
    List.findSome?_append, List.findSome?_eq_none_iff.mpr package, List.findSome?_append, imports,
    List.findSome?_cons_of_isNone (by simp [empty])]
  simp [classLine]

end Declared

end MapperFile

end EntityMapper
