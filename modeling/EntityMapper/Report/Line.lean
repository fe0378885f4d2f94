/-!
# Report lines

Reports are lists of lines in one layout, whatever they report.
-/
namespace EntityMapper

inductive ReportLine where
  | plain (text : String)
  /-- A finding, which a terminal shows apart from the report. -/
  | finding (text : String)
  deriving DecidableEq, Repr

namespace ReportLine

/-- The line as one text; a finding is marked as an error. -/
def text : ReportLine → String
  | plain text => text
  | finding text => "error: " ++ text

def empty : ReportLine := plain ""

def heading (name : String) : ReportLine :=
  plain (name ++ ":")

def entry (key value : String) : ReportLine :=
  plain (key ++ ": " ++ value)

def item (text : String) : ReportLine :=
  plain ("  - " ++ text)

/-- An item that is new. -/
def addedItem (text : String) : ReportLine :=
  plain ("  + " ++ text)

def divider (label : String) : ReportLine :=
  plain ("── " ++ label ++ " ──")

end ReportLine

end EntityMapper
