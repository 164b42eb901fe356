import Tandem.CommandLine

/-!
# The program

Reads the file that the arguments name, carries out the command and prints its report.
-/

namespace Tandem.CommandLine

/-- The text of a file, or why it cannot be read. -/
def readSource (path : String) : IO (Except ReadError String) := do
  try
    return decode (← IO.FS.readBinFile path)
  catch
    | .noFileOrDirectory .. => return .error .notFound
    | .inappropriateType .. => return .error .isDirectory
    | e => return .error (.other (toString e))

/-- Wait for a report, however many steps that takes. -/
partial def await (report : Nat → Option Report) (fuel : Nat) : IO Report :=
  match report fuel with
  | some report => return report
  | none => await report (4 * fuel)

end Tandem.CommandLine

open Tandem CommandLine in
/-- Carries out a command and gives its exit code. -/
def main (args : List String) : IO UInt32 := do
  let report ←
    match plan args with
    | .report report => pure report
    | .process verb path =>
      let source ← readSource path
      await (fun fuel => verb.process fuel path source) 4096
  IO.print report.stdout
  IO.eprint report.stderr
  return UInt32.ofNat report.code
