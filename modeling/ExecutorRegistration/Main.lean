import ExecutorRegistration.CommandLine
import ExecutorRegistration.Exchange
import Std.Time.DateTime.Timestamp

/-!
# The program

The program finds the variables, the files and the time of a run, and writes what the run has to
write. It has no network of its own: a request is answered as if nothing listened.
-/

namespace ExecutorRegistration

/-- The variables of the process. -/
def processEnvironment : IO Lookup := do
  return environmentOf (← IO.FS.readBinFile "/proc/self/environ").toList

/-- The names of the files that may hold variables for a directory, its own first, then those of
the directories above it. -/
def envFileNames (directory : String) : List String :=
  let parts := directory.splitOn "/"
  (List.range parts.length).map fun above =>
    "/".intercalate (parts.take (parts.length - above)) ++ "/.env"

/-- The file of variables with a name, if there is one. A file that is there but cannot be opened
counts. -/
def findEnvFile? (path : String) : IO (Option EnvFile) := do
  try
    if (← (← IO.FS.realPath path).metadata).type != .file then return none
    return some ⟨path, .ofOctets (← IO.FS.readBinFile path).toList⟩
  catch
    | .noFileOrDirectory .. => return none
    | error => return some ⟨path, ⟨"", some error.toString⟩⟩

/-- What a run of the process finds around it. -/
def processSurroundings : IO Surroundings := do
  let environment ← processEnvironment
  let envFiles ← (envFileNames (← IO.currentDir).toString).filterMapM findEnvFile?
  let time ← Std.Time.Timestamp.now
  return { environment, envFiles, clock := time.toNanosecondsSinceUnixEpoch.val }

/-- Writes a remark. -/
def writeRemark : Remark → IO Unit
  | .logged event => IO.eprintln event.render
  | .told text => IO.eprint text

end ExecutorRegistration

open ExecutorRegistration in
/-- Runs the program. -/
def main (arguments : List String) : IO UInt32 := do
  let surroundings ← processSurroundings
  let (completion, _) := (run .standard (exchange .absent) surroundings arguments).run []
  IO.print completion.stdout
  completion.stderr.forM writeRemark
  return completion.exitCode.toUInt32
