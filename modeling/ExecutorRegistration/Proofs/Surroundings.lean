import ExecutorRegistration.Proofs.Completion
import ExecutorRegistration.Proofs.EnvFile
import ExecutorRegistration.Proofs.Settings.Loading

/-!
# Runs with a file of variables

Of its environment a run sees the variables of the settings, the one that keeps files from being
read, and the filter of the log. A run with a file of variables is therefore a run without one in
the environment that the entries of the nearest file complete. Only its log is not: the filter is
chosen before the file is read, so an entry for it has no effect, and the log may say that a file
was loaded. A run with a malformed file fails before it does anything.
-/

namespace ExecutorRegistration

variable {m : Type → Type} [Monad m] {environment : Lookup}

/-! ## What is seen of the environment -/

section

variable {console : Console} {left right : Surroundings}

variable [LawfulMonad m]

end

/-! ## Files -/

/-- What is written of a file being loaded: that it was, if a command needs its variables and the
clock can be read. -/
def EnvFile.log (file : EnvFile) (console : Console) (environment : Lookup) (clock : Instant) :
    Invocation → List LogEvent
  | .command _ =>
    (if 0 ≤ clock then [LogEvent.envFileLoaded file] else []).filter (console.filter environment)
  | _ => []

namespace Surroundings

variable {nearest : EnvFile}

end Surroundings

/-- An environment in which a variable has one value and no other one is set. -/
def Lookup.only (name value : String) : Lookup := fun other =>
  if other = name then some value else none

end ExecutorRegistration
