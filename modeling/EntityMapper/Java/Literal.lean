/-!
# Java string literals

Text between double quotes. The quote, the backslash, the line feed and the tab are escaped; all
else stands for itself.
-/
namespace EntityMapper.Java

def escapeChar : Char → List Char
  | '"' => ['\\', '"']
  | '\\' => ['\\', '\\']
  | '\n' => ['\\', 'n']
  | '\t' => ['\\', 't']
  | c => [c]

/-- The text between the quotes of the literal. -/
def escape (s : String) : String :=
  String.ofList (s.toList.flatMap escapeChar)

def quoted (s : String) : String :=
  "\"" ++ escape s ++ "\""

end EntityMapper.Java
