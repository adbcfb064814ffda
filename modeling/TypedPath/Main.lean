import TypedPath.CommandLine.Run

open TypedPath

def main (arguments : List String) : IO UInt32 := do
  let report := CommandLine.run (arguments.map String.toList)
  (← IO.getStdout).putStr (String.ofList report.output)
  (← IO.getStderr).putStr (String.ofList report.errors)
  return UInt32.ofNat report.exitCode
