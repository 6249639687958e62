import Schemata.Command.Run

/-!
# Command line

`main` runs the arguments on the files of the machine.
-/

namespace Schemata.Command

/-- A fault of the machine as a fault of a file. Its code may come with either sign. -/
def faultOf : IO.Error → FileFault
  | .noFileOrDirectory _ _ _ => .notFound
  | .inappropriateType name code details =>
    if code = 20 ∨ code = -20 then .notDirectory
    else if code = 21 ∨ code = -21 then .isDirectory
    else .other (toString (IO.Error.inappropriateType name code details))
  | e => .other (toString e)

def machineFiles : FileAccess IO where
  read name := try .ok <$> IO.FS.readFile name catch e => return .error (faultOf e)
  write name content := try .ok <$> IO.FS.writeFile name content catch e => return .error (faultOf e)

/-- Run the arguments, print what is to be printed, and answer the exit code. -/
def runOnMachine (arguments : List String) : IO UInt32 := do
  let outcome ← run machineFiles arguments
  (← IO.getStdout).putStr outcome.printed
  match outcome with
  | .failed failure => IO.eprint failure.report
  | .misused error => IO.eprintln ("error: " ++ error.message)
  | .overflowed => IO.eprintln "capacity overflow"
  | _ => pure ()
  return outcome.code.toUInt32

end Schemata.Command

def main (arguments : List String) : IO UInt32 := Schemata.Command.runOnMachine arguments
