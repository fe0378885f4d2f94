import EntityMapper.CommandLine.Invocation
import EntityMapper.CommandLine.Usage
import EntityMapper.Manifest.Reader
import EntityMapper.Report.Check
import EntityMapper.Report.Inspect

/-!
# Running a request

A call reads its arguments, reads the manifest and carries out the task over a file store. What
it shows and how it ends is a value, so that a call can be made on files held in memory.
-/
namespace EntityMapper.CommandLine

/-- How a call ended. -/
inductive Status where
  | success
  /-- The manifest, a check or an operation failed. -/
  | failure
  /-- The arguments were refused. -/
  | misuse
  deriving DecidableEq, Repr

def Status.exitCode : Status → Nat
  | success => 0
  | failure => 1
  | misuse => 2

/-- What a call shows and how it ends. -/
structure Outcome where
  status : Status
  report : List ReportLine := []
  /-- What went wrong with the call as a whole. -/
  complaints : List String := []
  deriving DecidableEq, Repr

namespace Outcome

/-- The lines of the report itself. -/
def output (outcome : Outcome) : List String :=
  outcome.report.filterMap fun
    | .plain text => some text
    | .finding _ => none

/-- The findings among the lines. -/
def findings (outcome : Outcome) : List String :=
  outcome.report.filterMap fun
    | .plain _ => none
    | line@(.finding _) => some line.text

def ofDiagnostic (diagnostic : Diagnostic) : Outcome where
  status := .failure
  complaints := diagnostic.message :: diagnostic.help?.toList

def ofOperationError (cause : OperationError) : Outcome where
  status := .failure
  complaints := cause.chain

def ofMisuse (cause : Misuse) : Outcome where
  status := .misuse
  complaints := cause.message :: usage none

/-- A success that shows lines. -/
def shown (report : List ReportLine) : Outcome where
  status := .success
  report := report

end Outcome

def checkOutcome (opened : Manifest.Opened) : Outcome :=
  let report := CheckReport.ofManifest opened.manifest opened.path
  { status := if report.isValid then .success else .failure, report := report.lines }

def inspectOutcome (opened : Manifest.Opened) (className : Option String)
    (format : ReportFormat) : Outcome :=
  match InspectReport.ofManifest opened.manifest className with
  | .error cause => .ofOperationError cause
  | .ok report =>
    match format with
    | .text => .shown report.lines
    | .json => .shown [.plain report.json.render]

/-- Carries out a task on an opened manifest. -/
def Task.run {m : Type → Type} [Monad m] (store : FileStore m) (opened : Manifest.Opened) :
    Task → m Outcome
  | .check => return checkOutcome opened
  | .inspect className format => return inspectOutcome opened className format
  | .generate options => do
    match ← GenerateReport.ofManifest store opened.manifest options with
    | .error cause => return .ofOperationError cause
    | .ok report => return .shown report.lines

def Request.run {m : Type → Type} [Monad m] (store : FileStore m) : Request → m Outcome
  | .version => return .shown [.plain versionText]
  | .help command => return .shown ((usage command).map .plain)
  | .completions shell => return .shown [.plain (completionScript shell)]
  | .perform config task => do
    match ← Manifest.openFile store config with
    | .error diagnostic => return .ofDiagnostic diagnostic
    | .ok opened => task.run store opened

/-- A call of the program with these arguments. -/
def call {m : Type → Type} [Monad m] (store : FileStore m) (arguments : List String) :
    m Outcome :=
  match Request.ofArguments arguments with
  | .error cause => return .ofMisuse cause
  | .ok request => request.run store

end EntityMapper.CommandLine
