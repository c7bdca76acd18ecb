import ExecutorRegistration.EnvFile.Loading
import ExecutorRegistration.Logging
import ExecutorRegistration.Settings.Loading

/-!
# What a run finds around it

The variables of a run are those of its environment with those that the nearest file of variables
adds, unless the environment says that no file counts. The clock is read before the variables.
-/

namespace ExecutorRegistration

/-- What a run finds around it. -/
structure Surroundings where
  /-- The variables of the environment. -/
  environment : Lookup
  /-- The files of variables, nearest one first. -/
  envFiles : List EnvFile
  /-- The time. -/
  clock : Instant

/-- The variable that, if it is set, keeps files of variables from being read. -/
def skipVariable : String := "EXECUTOR_REGISTRAR_SKIP_DOTENV"

/-! ## Environments -/

/-- A variable and its value from an entry `NAME=VALUE`. A value that is no text counts only where
it is enough that the variable is set. -/
def environmentEntry? (entry : List UInt8) : Option (String × String) :=
  match entry.span (· ≠ 0x3D) with
  | (name, 0x3D :: value) => do
    let name ← Text.decodeUtf8? name
    match Text.decodeUtf8? value with
    | some value => some (name, value)
    | none => if name = skipVariable then some (name, "") else none
  | _ => none

/-- The variables in entries that a zero octet each ends. -/
def environmentOf (octets : List UInt8) : Lookup :=
  let entries := (octets.splitOn 0).filterMap environmentEntry?
  fun name => entries.lookup name

/-! ## Settings -/

/-- The file of variables that counts. -/
def Surroundings.envFile? (surroundings : Surroundings) : Option EnvFile :=
  if (surroundings.environment skipVariable).isSome then none else surroundings.envFiles.head?

/-- The variables of the environment with those that the file adds. -/
def Surroundings.variables (surroundings : Surroundings) : Except SettingsFault Lookup :=
  let environment := surroundings.environment
  match surroundings.envFile? with
  | none => .ok environment
  | some file =>
    ((EnvFile.load environment file.contents).mapError .envFile).map (EnvFile.extended environment)

/-- The settings of a run. -/
def Surroundings.settings (surroundings : Surroundings) : Except SettingsFault Settings := do
  let timestamp ← (unixMillis surroundings.clock).mapError .clock
  let lookup ← surroundings.variables
  Settings.load timestamp lookup

/-- What is noted about the file. -/
def Surroundings.envFileEvents (surroundings : Surroundings) : List LogEvent :=
  match unixMillis surroundings.clock, surroundings.variables with
  | .ok _, .ok _ => surroundings.envFile?.toList.map .envFileLoaded
  | _, _ => []

/-- What is noted while the settings are loaded. -/
def Surroundings.events (surroundings : Surroundings) : List LogEvent :=
  surroundings.envFileEvents ++
    match surroundings.settings with
    | .ok settings => [.settingsLoaded settings]
    | .error _ => []

end ExecutorRegistration
