import EntityMapper.Java.Literal
import EntityMapper.Java.Syntax
import EntityMapper.Source.Buffer

/-!
# Laying out Java syntax

Each syntax element as the pieces that write it. Expressions, types, parameters, returns and
local variables stay inside a line; statements and members end theirs.
-/
namespace EntityMapper.Java

open Source (Piece)

def TypeRef.layout (type : TypeRef) : List Piece :=
  [.token type.text]

mutual

def Expr.layout : Expr → List Piece
  | .name identifier => [.token identifier]
  | .text value => [.literal (quoted value)]
  | .classLiteral type => type.layout ++ [.token ".class"]
  | .access object member => object.layout ++ [.token ".", .token member]
  | .call object method arguments =>
    (match object with
      | some object => object.layout ++ [.token "."]
      | none => [])
      ++ [.token method, .token "("] ++ argumentsLayout arguments ++ [.token ")"]
  | .new type arguments =>
    .token "new " :: type.layout ++ [.token "("] ++ argumentsLayout arguments ++ [.token ")"]

/-- The arguments separated by commas. -/
def Expr.argumentsLayout : List Expr → List Piece
  | [] => []
  | [argument] => argument.layout
  | argument :: rest => argument.layout ++ .token ", " :: argumentsLayout rest

end

def Parameter.layout (parameter : Parameter) : List Piece :=
  parameter.type.layout ++ [.token " ", .token parameter.name]

def parametersLayout : List Parameter → List Piece
  | [] => []
  | [parameter] => parameter.layout
  | parameter :: rest => parameter.layout ++ .token ", " :: parametersLayout rest

/-- The modifiers of a member, each followed by a blank. -/
def modifiersLayout (visibility : Visibility) (isStatic isFinal : Bool) : List Piece :=
  (match visibility.keyword? with
    | some keyword => [.token keyword, .token " "]
    | none => [])
    ++ (if isStatic then [.token "static "] else [])
    ++ (if isFinal then [.token "final "] else [])

/-- A typed name with its initial value. -/
def declarationLayout (type : TypeRef) (name : String) (initial : Option Expr) : List Piece :=
  type.layout ++ [.token " ", .token name]
    ++ (match initial with
        | some value => .token " = " :: value.layout
        | none => [])

def FieldMember.layout (field : FieldMember) : List Piece :=
  modifiersLayout field.visibility field.isStatic field.isFinal
    ++ declarationLayout field.type field.name field.initial ++ [.token ";", .lineEnd]

def MethodHead.layout (head : MethodHead) : List Piece :=
  modifiersLayout head.visibility head.isStatic false
    ++ (match head.returns with
        | some type => type.layout
        | none => [.token "void"])
    ++ [.token " ", .token head.name, .token "("] ++ parametersLayout head.parameters
    ++ [.token ") \x7b", .lineEnd]

def ClassHead.layout (head : ClassHead) : List Piece :=
  modifiersLayout head.visibility false head.isFinal
    ++ [.token "class ", .token head.name, .token " \x7b", .lineEnd]

/-- The end of a method or class body. -/
def closeBody : List Piece :=
  Source.line "\x7d"

mutual

def Element.layout : Element → List Piece
  | .typeRef t => t.layout
  | .expr e => e.layout
  | .parameter p => p.layout
  | .result none => [.token "return"]
  | .result (some value) => .token "return" :: .token " " :: value.layout
  | .statement inner => inner.layout ++ [.token ";", .lineEnd]
  | .localVar t name initial => declarationLayout t name initial
  | .field member => member.layout
  | .method head body => head.layout ++ bodyLayout body ++ closeBody
  | .classBody head members => head.layout ++ membersLayout members ++ closeBody

/-- Each element of a method body as a statement. -/
def Element.bodyLayout : List Element → List Piece
  | [] => []
  | element :: rest => element.layout ++ .token ";" :: .lineEnd :: bodyLayout rest

/-- The members of a class with an empty line between neighbours. -/
def Element.membersLayout : List Element → List Piece
  | [] => []
  | [member] => member.layout
  | member :: rest => member.layout ++ .blankLine :: membersLayout rest

end

end EntityMapper.Java
