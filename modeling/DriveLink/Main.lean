import DriveLink.CommandLine.Invocation

/-! # The program

Reads the file that its command line names, carries the command line out, and prints the report. -/

namespace DriveLink.CommandLine

/-- What is in a file. -/
def readFile (name : String) : IO (Except IoError Bytes) := do
  try
    let content ← IO.FS.readBinFile name
    return .ok content.data.toList
  catch error =>
    match error with
    | .noFileOrDirectory .. => return .error (.system .noSuchFile)
    | _ => return .error (.told (toString error))

end DriveLink.CommandLine

open DriveLink

/-- The program. -/
def main (arguments : List String) : IO UInt32 := do
  let content ←
    match CommandLine.read arguments with
    | .ok { trustFile := some name, .. } => CommandLine.readFile name
    | _ => pure (.error (.system .noSuchFile))
  let report := CommandLine.run (fun _ => content) arguments
  (← IO.getStdout).putStr report.output
  (← IO.getStderr).putStr report.complaint
  return report.exitCode
