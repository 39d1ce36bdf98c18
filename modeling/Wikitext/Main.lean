import Wikitext.CommandLine

/-!
The program: files and the standard input are read from the system, and the report is written to
the standard output and the standard error.
-/
namespace Wikitext.CommandLine

/-- The system gives the code of an error with either sign. -/
def faultOf (error : IO.Error) : ReadFault :=
  match error with
  | .noFileOrDirectory .. => .missing
  | .permissionDenied .. => .denied
  | .inappropriateType _ code _ =>
    if code = 21 ∨ code = 0 - 21 then .isDirectory else .notDirectory
  | other => .other (toString other)

def attempt (action : IO ByteArray) : IO (Except ReadFault ByteArray) := do
  try return .ok (← action)
  catch error => return .error (faultOf error)

def systemSources : Sources IO where
  file path := attempt (IO.FS.readBinFile path)
  input := attempt do (← IO.getStdin).readBinToEnd

end Wikitext.CommandLine

open Wikitext.CommandLine in
def main (arguments : List String) : IO UInt32 := do
  let report ← run systemSources arguments
  (← IO.getStdout).putStr report.output
  (← IO.getStderr).putStr report.diagnostics
  return report.code
