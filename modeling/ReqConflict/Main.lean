import ReqConflict.Run

/-!
# The program

Connects runs to the files, the arguments and the environment of a process.
-/

namespace ReqConflict

/-- What an error of the file system means to a run.  Codes may come negated. -/
def FileFault.ofError : IO.Error → FileFault
  | .noFileOrDirectory .. => .missing
  | .inappropriateType _ code _ => if code = 20 ∨ code = -20 then .notDirectory else .directory
  | .permissionDenied .. => .denied
  | .userError _ => .notText
  | error => .other (toString error)

def attempt {α : Type} (action : IO α) : IO (Except FileFault α) := do
  try return .ok (← action)
  catch error => return .error (.ofError error)

def processHost : Host IO where
  read path := attempt (IO.FS.readFile path)
  isFile path := do
    let reading ← attempt (IO.FS.withFile path .read fun handle => handle.read 1)
    return reading.isOk
  write path text := attempt (IO.FS.writeFile path text)

end ReqConflict

open ReqConflict in
def main (words : List String) : IO UInt32 := do
  let environment ← IO.getEnv RulesSource.environmentVariable
  let outcome ← run processHost environment words
  IO.print outcome.output
  IO.eprint outcome.error
  return outcome.exitCode.toUInt32
