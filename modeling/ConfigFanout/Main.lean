import ConfigFanout.CommandLine

-- The program on the command line.
open ConfigFanout

/-- Prints what the arguments ask for. -/
def main (arguments : List String) : IO UInt32 := do
  let (output, code) := CommandLine.execute arguments
  IO.print output
  return code.toUInt32
