import ExecutorRegistration.EnvFile.Loading
import Mathlib.Data.List.Basic

/-!
# The variables of a file

Whether a line can be loaded, and which variable it sets, does not depend on the variables that its
value refers to. So a file either has a first line that is malformed or cannot be read, which is
then the fault of loading it, or it has a list of entries; together with an environment it stands
for the environment in which each variable that is not set has the value of its first entry.
-/

namespace ExecutorRegistration.EnvFile

variable {environment : String → Option String}

/-! ## Reading a line with other variables -/

/-- The state without what was put out. -/
def ValueState.control (state : ValueState) : ValueState := { state with output := [] }

/-- The step without what was put out. -/
def Step.control : Step → Step
  | next state => next state.control
  | stop => stop
  | refuse => refuse

/-- The fault of a result, whatever value it has otherwise. -/
def fault? {ε α : Type} : Except ε α → Option ε
  | .error fault => some fault
  | .ok _ => none

/-- Why a line is malformed, if it is: it is not finished, or not one of the file at all, or cannot
be read with any variables. -/
def LogicalLine.fault? : LogicalLine → Option EnvFileFault
  | unfinished text => some (.malformed (String.ofList text) (String.ofList text).utf8ByteSize)
  | unreadable reason => some (.unreadable reason)
  | complete line => EnvFile.fault? (readLine (fun _ => none) line)

/-- The entries of lines in their order. A reference stands for the value of a variable of the
environment, or else of its first entry on the lines before. -/
def entries (environment : String → Option String) (earlier : List (String × String)) :
    List LogicalLine → List (String × String)
  | [] => []
  | .unfinished _ :: rest | .unreadable _ :: rest => entries environment earlier rest
  | .complete line :: rest =>
    match readLine (extended environment earlier) line with
    | .ok (some entry) => entry :: entries environment (earlier ++ [entry]) rest
    | _ => entries environment earlier rest

end ExecutorRegistration.EnvFile
