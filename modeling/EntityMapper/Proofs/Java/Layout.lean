import EntityMapper.Java.Layout
import EntityMapper.Proofs.Source.Layout
import EntityMapper.Proofs.Text.LetterCase

/-!
# Layouts of Java syntax

Java syntax with plain names is laid out. Expressions and types are plain pieces of a line; a statement
is one line, a method the lines of its statements between the lines of its braces (`Lays.method`).
-/
namespace EntityMapper

open Source

/-- Upper case of plain text is plain. -/
theorem Source.Plain.upperCase {s : String} (plain : Plain s) {c d : Char} (member : c ∈ s.toList)
    (mapped : d ∈ Text.upperCase c) : d ≠ '\n' ∧ d ≠ '\x7b' ∧ d ≠ '\x7d' := by
  have kept (ascii : d.toNat < Text.asciiLimit) (other : d.isAlpha = false) : d = c :=
    Text.eq_of_mem_upperCase mapped ascii other
  obtain ⟨inLine, unopened, unclosed⟩ := plain c member
  refine ⟨?_, ?_, ?_⟩
  · rintro rfl
    exact inLine (kept (by decide) (by decide)).symm
  · rintro rfl
    exact unopened (kept (by decide) (by decide)).symm
  · rintro rfl
    exact unclosed (kept (by decide) (by decide)).symm

namespace Java

theorem plain_capitalize {property : String} (plain : Plain property) : Plain (capitalize property) := by
  have raised : Plain (Text.upper property) := by
    intro d member
    rw [Text.upper, String.toList_ofList, List.mem_flatMap] at member
    obtain ⟨c, inProperty, mapped⟩ := member
    exact plain.upperCase inProperty mapped
  rw [capitalize]
  split
  · rename_i first second rest spelled
    split
    · exact raised
    · intro d member
      rw [String.toList_ofList, List.mem_append] at member
      rcases member with mapped | kept
      · exact plain.upperCase (by simp [spelled]) mapped
      · exact plain d (spelled ▸ List.mem_cons_of_mem _ kept)
  · exact raised

theorem plain_getterName {property : String} (plain : Plain property) : Plain (getterName property) :=
  .append (by decide) (plain_capitalize plain)

theorem plain_setterName {property : String} (plain : Plain property) : Plain (setterName property) :=
  .append (by decide) (plain_capitalize plain)

namespace TypeRef

theorem mem_stripDimensions {cs : List Char} {c : Char} (member : c ∈ (stripDimensions cs).1) :
    c ∈ cs := by
  fun_induction stripDimensions cs with
  | case1 rest name dimensions stripped ih =>
    rw [stripped] at ih
    exact List.mem_cons_of_mem _ (List.mem_cons_of_mem _ (ih member))
  | case2 name => exact member

theorem mem_name_parse {text : String} {arguments : List TypeRef} {c : Char}
    (member : c ∈ (parse text arguments).name.toList) : c ∈ text.toList := by
  rw [parse, name, String.toList_ofList, List.mem_reverse] at member
  exact List.mem_reverse.mp (mem_stripDimensions member)

theorem mem_writtenName {name : String} {c : Char} (member : c ∈ (writtenName name).toList) :
    c ∈ name.toList := by
  rw [writtenName] at member
  split at member
  · rename_i simple found
    split at member
    · exact member
    · rw [← Text.append_of_afterStart? found]
      rw [String.toList_ofList] at member
      exact List.mem_append_right _ member
  · exact member

/-- Only the package of `java.lang` itself is written as nothing. -/
theorem writtenName_ne_empty {name : String} (filled : name ≠ "") (other : name ≠ "java.lang.") :
    writtenName name ≠ "" := by
  rw [writtenName]
  split
  · rename_i simple found
    split
    · exact filled
    · intro empty
      have whole := Text.append_of_afterStart? found
      rw [String.ofList_eq_empty_iff.mp empty, List.append_nil] at whole
      exact other (String.toList_injective whole).symm
  · exact filled

theorem mem_brackets {dimensions : Nat} {c : Char}
    (member : c ∈ (String.join (List.replicate dimensions "[]")).toList) : c = '[' ∨ c = ']' := by
  induction dimensions with
  | zero => simp at member
  | succ dimensions ih =>
    rw [List.replicate_succ, String.join_cons, String.toList_append, List.mem_append] at member
    exact member.elim (by simp) ih

theorem text_parse (text : String) (arguments : List TypeRef) :
    (parse text arguments).text = writtenName (parse text arguments).name
      ++ (match arguments with
          | [] => ""
          | first :: rest => "<" ++ first.text ++ argumentsText rest ++ ">")
      ++ String.join (List.replicate (parse text arguments).dimensions "[]") := by
  cases stripped : stripDimensions text.toList.reverse
  cases arguments <;> simp [parse, stripped, TypeRef.text, name, dimensions]

theorem plain_argumentsText {arguments : List TypeRef}
    (plain : ∀ argument ∈ arguments, Plain argument.text) : Plain (argumentsText arguments) := by
  induction arguments with
  | nil => decide
  | cons first rest ih =>
    obtain ⟨here, others⟩ := List.forall_mem_cons.mp plain
    exact ((Plain.append (by decide) here).append (ih others))

theorem plain_text_parse {text : String} {arguments : List TypeRef} (plain : Plain text)
    (inside : ∀ argument ∈ arguments, Plain argument.text) :
    Plain (parse text arguments).text := by
  have written : Plain (writtenName (parse text arguments).name) := fun c member =>
    plain c (mem_name_parse (mem_writtenName member))
  have brackets (count : Nat) : Plain (String.join (List.replicate count "[]")) := by
    intro c member
    rcases mem_brackets member with rfl | rfl <;> decide
  rw [text_parse]
  refine Plain.append (Plain.append written ?_) (brackets _)
  cases arguments with
  | nil => decide
  | cons first rest =>
    obtain ⟨here, others⟩ := List.forall_mem_cons.mp inside
    exact (((Plain.append (by decide) here).append (plain_argumentsText others)).append (by decide))

theorem unbroken_named {text : String} (unbroken : Unbroken text) : Unbroken (named text).text := by
  intro c member
  rw [named, text_parse, String.append_empty, String.toList_append, List.mem_append] at member
  rcases member with written | bracket
  · exact unbroken c (mem_name_parse (mem_writtenName written))
  · rcases mem_brackets bracket with rfl | rfl <;> decide

theorem stripDimensions_of_none {cs : List Char} (none : (stripDimensions cs).2 = 0) :
    (stripDimensions cs).1 = cs := by
  unfold stripDimensions at none ⊢
  split at none
  · cases none
  · rfl

/-- A type is written with something at its front, unless it is the package of `java.lang` itself. -/
theorem begins_named {text : String} (solid : Solid text) (other : text ≠ "java.lang.") :
    Begins (named text).text := by
  refine (unbroken_named solid.2).begins fun empty => ?_
  rw [named, text_parse, String.append_empty, String.append_eq_empty_iff] at empty
  obtain ⟨unnamed, flat⟩ := empty
  have none : (parse text []).dimensions = 0 := by
    cases count : (parse text []).dimensions with
    | zero => rfl
    | succ more => simp [count, List.replicate_succ] at flat
  have whole : (parse text []).name = text := by
    rw [parse, dimensions] at none
    rw [parse, name, stripDimensions_of_none none, List.reverse_reverse, String.ofList_toList]
  exact writtenName_ne_empty solid.1 other (whole ▸ unnamed)

end TypeRef

section Pieces

@[simp] theorem allPlain_type (type : TypeRef) : AllPlain type.layout ↔ Plain type.text := by
  simp [TypeRef.layout]

theorem allPlain_arguments (arguments : List Expr) :
    AllPlain (Expr.argumentsLayout arguments) ↔ ∀ argument ∈ arguments, AllPlain argument.layout := by
  have comma : Plain ", " := by decide
  induction arguments with
  | nil => simp [Expr.argumentsLayout]
  | cons first rest ih =>
    cases rest with
    | nil => simp [Expr.argumentsLayout]
    | cons second rest => simp [Expr.argumentsLayout, comma, ih]

@[simp] theorem allPlain_name (identifier : String) :
    AllPlain (Expr.name identifier).layout ↔ Plain identifier := by
  simp [Expr.layout]

@[simp] theorem allPlain_classLiteral (type : TypeRef) :
    AllPlain (Expr.classLiteral type).layout ↔ Plain type.text := by
  have suffix : Plain ".class" := by decide
  simp [Expr.layout, suffix]

@[simp] theorem allPlain_access (object : Expr) (member : String) :
    AllPlain (Expr.access object member).layout ↔ AllPlain object.layout ∧ Plain member := by
  have point : Plain "." := by decide
  simp [Expr.layout, point]

@[simp] theorem allPlain_send (object : Expr) (method : String) (arguments : List Expr) :
    AllPlain (object.send method arguments).layout ↔
      AllPlain object.layout ∧ Plain method ∧ ∀ argument ∈ arguments, AllPlain argument.layout := by
  have marks : Plain "." ∧ Plain "(" ∧ Plain ")" := by decide
  simp [Expr.send, Expr.layout, marks, allPlain_arguments]

@[simp] theorem allPlain_new (type : TypeRef) (arguments : List Expr) :
    AllPlain (Expr.new type arguments).layout ↔
      Plain type.text ∧ ∀ argument ∈ arguments, AllPlain argument.layout := by
  have marks : Plain "new " ∧ Plain "(" ∧ Plain ")" := by decide
  simp [Expr.layout, marks, allPlain_arguments]

theorem allPlain_parameters {parameters : List Parameter}
    (plain : ∀ parameter ∈ parameters, Plain parameter.type.text ∧ Plain parameter.name) :
    AllPlain (parametersLayout parameters) := by
  have marks : Plain ", " ∧ Plain " " := by decide
  induction parameters with
  | nil => simp [parametersLayout]
  | cons first rest ih =>
    obtain ⟨here, others⟩ := List.forall_mem_cons.mp plain
    cases rest with
    | nil => simp [parametersLayout, Parameter.layout, marks, here]
    | cons second rest => simp [parametersLayout, Parameter.layout, marks, here, ih others]

theorem allPlain_modifiers (visibility : Visibility) (isStatic isFinal : Bool) :
    AllPlain (modifiersLayout visibility isStatic isFinal) := by
  have words : Plain "public" ∧ Plain "protected" ∧ Plain "private" ∧ Plain " " ∧ Plain "static " ∧
      Plain "final " := by
    decide
  cases visibility <;> cases isStatic <;> cases isFinal <;>
    simp [modifiersLayout, Visibility.keyword?, words]

/-- A member that is not open to its package alone begins with how open it is. -/
theorem begins_modifiers {visibility : Visibility} (stated : visibility ≠ .packageAccess)
    (isStatic isFinal : Bool) : Begins (content (modifiersLayout visibility isStatic isFinal)) := by
  cases visibility with
  | packageAccess => exact absurd rfl stated
  | _ => cases isStatic <;> cases isFinal <;> decide

theorem allPlain_declaration (type : TypeRef) (name : String) (initial : Expr) :
    AllPlain (declarationLayout type name (some initial)) ↔
      Plain type.text ∧ Plain name ∧ AllPlain initial.layout := by
  have marks : Plain " " ∧ Plain " = " := by decide
  simp [declarationLayout, marks]

end Pieces

namespace FieldMember

/-- The field in front of its semicolon. -/
def declared (field : FieldMember) : List Piece :=
  modifiersLayout field.visibility field.isStatic field.isFinal
    ++ declarationLayout field.type field.name field.initial

def line (level : Nat) (field : FieldMember) : String :=
  javaMargin level ++ (content field.declared ++ ";")

/-- A constant is a line. -/
theorem lays_constant {type : TypeRef} {name : String} {initial : Expr} (typed : Plain type.text)
    (named : Plain name) (value : AllPlain initial.layout) (level : Nat) :
    Lays (constant type name initial).layout level [(constant type name initial).line level] level := by
  have plain : AllPlain (constant type name initial).declared := by
    rw [declared, constant, allPlain_append, allPlain_declaration]
    exact ⟨allPlain_modifiers _ _ _, typed, named, value⟩
  have begins : Begins (content (constant type name initial).declared) := by
    have stated := begins_modifiers (show Visibility.privateAccess ≠ .packageAccess by decide) true true
    rw [declared, content_append]
    exact stated.append _
  exact Lays.statement plain begins level

end FieldMember

namespace Element

/-- The element is a line once a semicolon and a line end follow. -/
structure IsStatement (element : Element) : Prop where
  plain : AllPlain element.layout
  begins : Begins (content element.layout)

def line (level : Nat) (element : Element) : String :=
  javaMargin level ++ (content element.layout ++ ";")

theorem isStatement_localVar {type : TypeRef} {name : String} {initial : Expr}
    (plain : Plain type.text) (begins : Begins type.text) (named : Plain name)
    (value : AllPlain initial.layout) : IsStatement (.localVar type name (some initial)) where
  plain := by
    rw [layout, allPlain_declaration]
    exact ⟨plain, named, value⟩
  begins := by
    rw [layout, declarationLayout, TypeRef.layout, List.append_assoc, content_append]
    exact begins.append _

theorem isStatement_send {owner method : String} {arguments : List Expr} (solid : Solid owner)
    (named : Plain method) (plain : ∀ argument ∈ arguments, AllPlain argument.layout) :
    IsStatement (.expr (.send (.name owner) method arguments)) where
  plain := by
    rw [layout, allPlain_send, allPlain_name]
    exact ⟨solid.plain, named, plain⟩
  begins := by
    rw [layout, Expr.send, Expr.layout, Expr.layout]
    simp only [List.cons_append, content_cons]
    exact solid.begins.append _

theorem isStatement_result {value : Expr} (plain : AllPlain value.layout) :
    IsStatement (.result (some value)) where
  plain := by
    have marks : Plain "return" ∧ Plain " " := by decide
    simp [layout, marks, plain]
  begins := by
    rw [layout, content_cons]
    exact Begins.append (by decide) _

end Element

namespace MethodHead

/-- The head in front of the parenthesis behind its parameters. -/
def opening (head : MethodHead) : List Piece :=
  modifiersLayout head.visibility head.isStatic false
    ++ (match head.returns with
        | some type => type.layout
        | none => [.token "void"])
    ++ [.token " ", .token head.name, .token "("] ++ parametersLayout head.parameters

def line (level : Nat) (head : MethodHead) : String :=
  javaMargin level ++ (content head.opening ++ ") \x7b")

theorem lays {head : MethodHead} (stated : head.visibility ≠ .packageAccess) {type : TypeRef}
    (returns : head.returns = some type) (result : Plain type.text) (name : Plain head.name)
    (parameters : ∀ parameter ∈ head.parameters, Plain parameter.type.text ∧ Plain parameter.name)
    (level : Nat) : Lays head.layout level [head.line level] (level + 1) := by
  have plain : AllPlain head.opening := by
    have marks : Plain " " ∧ Plain "(" := by decide
    rw [opening, returns]
    simp [allPlain_modifiers, result, name, marks, allPlain_parameters parameters]
  have begins : Begins (content head.opening) := by
    rw [opening, List.append_assoc, List.append_assoc, content_append]
    exact (begins_modifiers stated _ _).append _
  exact Lays.opening plain level begins ") " (by decide)

end MethodHead

namespace ClassHead

def line (level : Nat) (head : ClassHead) : String :=
  javaMargin level
    ++ (content (modifiersLayout head.visibility false head.isFinal
      ++ [.token "class ", .token head.name]) ++ " \x7b")

theorem lays {head : ClassHead} (stated : head.visibility ≠ .packageAccess) (name : Plain head.name)
    (level : Nat) : Lays head.layout level [head.line level] (level + 1) := by
  have marks : Plain "class " := by decide
  have plain : AllPlain (modifiersLayout head.visibility false head.isFinal
      ++ [.token "class ", .token head.name]) := by
    simp [allPlain_modifiers, marks, name]
  have laid := Lays.opening plain level
    (by rw [content_append]; exact (begins_modifiers stated _ _).append _) " " (by decide)
  rwa [List.append_assoc] at laid

end ClassHead

end Java

namespace Source.Lays

open Java (Element MethodHead)

/-- Each statement of a body is a line. -/
theorem body {body : List Element} (statements : ∀ element ∈ body, element.IsStatement) (level : Nat) :
    Lays (Element.bodyLayout body) level (body.map (Element.line level)) level := by
  induction body with
  | nil => exact Lays.nil level
  | cons element rest ih =>
    obtain ⟨first, others⟩ := List.forall_mem_cons.mp statements
    have laid := (Lays.statement first.plain first.begins level).append (ih others)
    rw [List.append_assoc] at laid
    rwa [Element.bodyLayout]

/-- The lines of a method: its head, its body one level further in, and the closing brace. -/
theorem method {head : MethodHead} {body : List Element} {level : Nat}
    (opened : Lays head.layout level [head.line level] (level + 1))
    (statements : ∀ element ∈ body, element.IsStatement) :
    Lays (Element.method head body).layout level
      (head.line level :: body.map (Element.line (level + 1)) ++ [javaMargin level ++ "\x7d"]) level := by
  rw [Element.layout]
  exact (opened.append (Lays.body statements (level + 1))).append (Lays.closing level)

end Source.Lays

end EntityMapper
