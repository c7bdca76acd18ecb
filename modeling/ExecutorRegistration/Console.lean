import ExecutorRegistration.Arguments
import ExecutorRegistration.Logging

/-!
# Consoles

How the arguments are explained and what the text of a filter means is left to a console.
`Console.standard` explains them in English and reads filters as directives.
-/

namespace ExecutorRegistration

/-- What a run relies on when it writes to those who have started it. -/
structure Console where
  /-- The help on a topic. -/
  help : HelpTopic → String
  /-- The name of the program and its version. -/
  version : String
  /-- What is said about arguments that are refused. -/
  complaint : List String → String
  /-- The filter that a text denotes, if it denotes one. -/
  readFilter? : String → Option LogFilter

/-- The variable with the text of a filter. -/
def logVariable : String := "RUST_LOG"

/-- The filter for the log in an environment. -/
def Console.filter (console : Console) (environment : String → Option String) : LogFilter :=
  ((environment logVariable).bind console.readFilter?).getD .usual

/-! ## The standard console -/

namespace Console

/-- How the program is called. -/
def usage : String := "Usage: executor-registrar <COMMAND>\n"

/-- The help on a topic in English. -/
def englishHelp : HelpTopic → String
  | .program =>
    "Generate and submit executor registrations\n\n" ++ usage ++ "\n" ++
    "Commands:\n" ++
    "  generate  Generate executor digest to sign\n" ++
    "  submit    Submit signed payload to API\n" ++
    "  help      Print this message or the help of the given subcommand(s)\n\n" ++
    "Options:\n" ++
    "  -h, --help     Print help\n" ++
    "  -V, --version  Print version\n"
  | .generate =>
    "Generate executor digest to sign\n\n" ++
    "Usage: executor-registrar generate\n\n" ++
    "Options:\n" ++
    "  -h, --help  Print help\n"
  | .submit =>
    "Submit signed payload to API\n\n" ++
    "Usage: executor-registrar submit --signature <SIGNATURE> --timestamp <TIMESTAMP>\n\n" ++
    "Options:\n" ++
    "  -s, --signature <SIGNATURE>  Signature string\n" ++
    "  -t, --timestamp <TIMESTAMP>  Timestamp the digest was generated with\n" ++
    "  -h, --help                   Print help\n"
  | .help =>
    "Print this message or the help of the given subcommand(s)\n\n" ++
    "Usage: executor-registrar help [COMMAND]...\n\n" ++
    "Arguments:\n" ++
    "  [COMMAND]...  Print help for the subcommand(s)\n"

/-- The console that explains in English, complains alike about all arguments, and reads filters as
directives. -/
def standard : Console where
  help := englishHelp
  version := "executor-registrar 0.1.0\n"
  complaint _ := usage ++ "\nFor more information, try '--help'.\n"
  readFilter? := LogFilter.parse?

end Console

end ExecutorRegistration
