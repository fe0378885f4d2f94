/-!
# Diagnostics of manifests

What is wrong with a manifest, worded, with the places in its text that the wording is about.
Places are stretches of bytes.
-/
namespace EntityMapper

/-- A stretch of UTF-8 bytes. -/
structure Span where
  offset : Nat
  length : Nat
  deriving DecidableEq, Repr

inductive Diagnostic where
  /-- The file cannot be read as text. -/
  | unreadable (path : String)
  /-- The text is no document or describes no manifest. -/
  | malformed (file : String)
  | invalid (file : String) (span : Option Span) (message : String)
  | duplicate (file : String) (first second : Option Span) (kind name : String)
  | reservedWord (file : String) (span : Option Span) (name context : String)
  | invalidName (file : String) (span : Option Span) (name context reason : String)
  deriving DecidableEq, Repr

namespace Diagnostic

def message : Diagnostic → String
  | unreadable path => "failed to read '" ++ path ++ "'"
  | malformed _ => "failed to parse rowbind.toml"
  | invalid _ _ message => message
  | duplicate _ _ _ kind name => "duplicate " ++ kind ++ " '" ++ name ++ "'"
  | reservedWord _ _ name _ => "'" ++ name ++ "' is a Java reserved word"
  | invalidName _ _ name context _ => "invalid " ++ context ++ " name '" ++ name ++ "'"

/-- The code a diagnostic is catalogued under, if it has one. -/
def code? : Diagnostic → Option String
  | malformed _ => some "rowbind::parse_error"
  | invalid .. => some "rowbind::validation_error"
  | duplicate .. => some "rowbind::duplicate"
  | _ => none

/-- What to do about it, where there is advice. -/
def help? : Diagnostic → Option String
  | unreadable _ => some "pass the path to an existing rowbind.toml with --config"
  | duplicate _ _ _ kind _ => some ("each " ++ kind ++ " may only be declared once")
  | reservedWord _ _ name _ =>
    some ("rename '" ++ name ++ "' to something else, e.g. '" ++ name ++ "Value'")
  | invalidName _ _ _ _ reason =>
    some (reason ++ ". Use only letters, digits, '_' and '$', not starting with a digit.")
  | _ => none

/-- The file the diagnostic is about; one that cannot be read is named in the message only. -/
def file? : Diagnostic → Option String
  | unreadable _ => none
  | malformed file => some file
  | invalid file .. => some file
  | duplicate file .. => some file
  | reservedWord file .. => some file
  | invalidName file .. => some file

/-- The places with what is said at each; a place that was not found is left out. -/
def labels : Diagnostic → List (String × Span)
  | invalid _ span message => span.toList.map (message, ·)
  | duplicate _ first second _ _ =>
    first.toList.map ("first declared here", ·) ++ second.toList.map ("declared again here", ·)
  | reservedWord _ span _ _ => span.toList.map ("reserved word used here", ·)
  | invalidName _ span _ _ _ => span.toList.map ("invalid identifier", ·)
  | _ => []

end Diagnostic

end EntityMapper
