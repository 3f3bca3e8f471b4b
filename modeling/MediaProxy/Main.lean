import MediaProxy.CommandLine.Program

/-!
# The executable

Prints what the program says and reads the line that ends it.
-/

open MediaProxy

/-- Reads octets up to the end of a line or of the input. -/
partial def readEntered (input : IO.FS.Stream) (sofar : Bytes) : IO Bytes := do
  let next ← input.read 1
  match next.toList with
  | [b] => if b = 10 then return (b :: sofar).reverse else readEntered input (b :: sofar)
  | _ => return sofar.reverse

def printReport (report : CommandLine.Report) : IO UInt32 := do
  (← IO.getStdout).putStr (String.ofList report.output)
  (← IO.getStderr).putStr (String.ofList report.errors)
  return report.status.toUInt32

def main (arguments : List String) : IO UInt32 := do
  match CommandLine.readOrder (arguments.map String.toList) with
  | .error halt => printReport halt.report
  | .ok order =>
    match CommandLine.begin order .idle (.idle none [] false []) with
    | .error report => printReport report
    | .ok serving =>
      let started ← IO.monoNanosNow
      let output ← IO.getStdout
      output.putStr (String.ofList serving.banner)
      output.flush
      let entered ← readEntered (← IO.getStdin) []
      let nanoseconds := (← IO.monoNanosNow) - started
      let elapsed : Elapsed :=
        ⟨UInt64.ofNat (nanoseconds / 1000000000), UInt64.ofNat (nanoseconds % 1000000000)⟩
      printReport
        ⟨0, serving.shutDown elapsed, CommandLine.Serving.complaint entered⟩
