import EntityMapper.CommandLine.Run

/-!
# The program

Reads its arguments, works on the files of the disk, and shows reports on standard output and
everything that went wrong on standard error.
-/
namespace EntityMapper

/-- The files of the disk. -/
def disk : FileStore IO where
  read path := do
    try
      return some (← IO.FS.readFile path)
    catch _ => return none
  write path text := do
    try
      IO.FS.createDirAll ((Path.parent? path).getD ".")
      IO.FS.writeFile path text
      return .ok ()
    catch cause => return .error cause.toString

/-- Shows what a call shows, and gives its exit code. -/
def CommandLine.Outcome.present (outcome : CommandLine.Outcome) : IO UInt32 := do
  let output ← IO.getStdout
  let errors ← IO.getStderr
  outcome.output.forM fun line => output.putStrLn line
  outcome.findings.forM fun line => errors.putStrLn line
  outcome.complaints.forM fun line => errors.putStrLn line
  return UInt32.ofNat outcome.status.exitCode

end EntityMapper

def main (arguments : List String) : IO UInt32 := do
  (← EntityMapper.CommandLine.call EntityMapper.disk arguments).present
