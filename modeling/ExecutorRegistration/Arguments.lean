import ExecutorRegistration.Text.Basic

/-!
# The arguments of a run

The arguments ask for one of two commands, or for help or the version. They are read from the
left, and the first one that is refused or asks for help decides, whatever stands behind it.
-/

namespace ExecutorRegistration

/-- What a run is to do. -/
inductive Command where
  /-- Report the digests and the command that signs. -/
  | generate
  /-- Send the registration with a signature and the timestamp that was signed. -/
  | submit (signature : String) (timestamp : UInt64)
deriving DecidableEq, Repr

/-- What help is about. -/
inductive HelpTopic where
  /-- The program. -/
  | program
  /-- The command that reports. -/
  | generate
  /-- The command that sends. -/
  | submit
  /-- Help itself. -/
  | help
deriving DecidableEq, Repr

/-- What arguments ask for. -/
inductive Invocation where
  /-- A command. -/
  | command (command : Command)
  /-- Help. -/
  | help (topic : HelpTopic)
  /-- The version of the program. -/
  | version
  /-- Nothing: they are refused. -/
  | refused
deriving DecidableEq, Repr

/-! ## Options -/

/-- An option of `submit`. -/
inductive Flag where
  /-- The signature. -/
  | signature
  /-- The timestamp that was signed. -/
  | timestamp
deriving DecidableEq, Repr

/-- The flag with a letter. -/
def Flag.ofLetter? (letter : Char) : Option Flag :=
  if letter = 's' then some signature else if letter = 't' then some timestamp else none

/-- The flag with a name. -/
def Flag.ofName? (name : List Char) : Option Flag :=
  if name = "signature".toList then some signature
  else if name = "timestamp".toList then some timestamp
  else none

/-- Whether an argument is a switch: its name behind two dashes, or one dash and its letter,
whatever stands behind the letter. -/
def isSwitch (name : String) (letter : Char) (argument : List Char) : Bool :=
  argument = '-' :: '-' :: name.toList || argument.take 2 = ['-', letter]

/-- Whether an argument asks for help. -/
def asksForHelp (argument : List Char) : Bool := isSwitch "help" 'h' argument

/-- Whether an argument asks for the version. -/
def asksForVersion (argument : List Char) : Bool := isSwitch "version" 'V' argument

/-- What an argument says. -/
inductive Argument where
  /-- A flag, with the value if the argument holds it. -/
  | flag (flag : Flag) (value : Option String)
  /-- A value; a single dash is one, too. -/
  | value (text : String)
  /-- It asks for help. -/
  | help
  /-- No more flags follow. -/
  | ending
  /-- There is no such flag. -/
  | unknown
deriving DecidableEq, Repr

/-- The value behind a letter in the same argument; an equals sign before it does not count. -/
def attachedValue : List Char → Option String
  | [] => none
  | '=' :: value => some (String.ofList value)
  | value => some (String.ofList value)

/-- The value behind the name of a flag, set off by an equals sign. -/
def assignedValue : List Char → Option String
  | [] => none
  | _ :: value => some (String.ofList value)

/-- What an argument says. -/
def Argument.of (text : String) : Argument :=
  if asksForHelp text.toList then help
  else
    match text.toList with
    | ['-', '-'] => ending
    | '-' :: '-' :: rest =>
      match Flag.ofName? (rest.takeWhile (· ≠ '=')) with
      | some found => flag found (assignedValue (rest.dropWhile (· ≠ '=')))
      | none => unknown
    | '-' :: letter :: rest =>
      match Flag.ofLetter? letter with
      | some found => flag found (attachedValue rest)
      | none => unknown
    | _ => value text

/-- The options given so far. -/
structure Options where
  /-- The signature. -/
  signature : Option String := none
  /-- The timestamp. -/
  timestamp : Option UInt64 := none
deriving DecidableEq, Repr

/-- Why options are not read to their end. -/
inductive Interruption where
  /-- An argument is refused. -/
  | refusal
  /-- An argument asks for help. -/
  | help
deriving DecidableEq, Repr

/-- Gives an option its value, once, and if the value is acceptable. -/
def Options.give (options : Options) (flag : Flag) (value : String) :
    Except Interruption Options :=
  match flag with
  | .signature =>
    if options.signature.isSome then .error .refusal
    else .ok { options with signature := some value }
  | .timestamp =>
    if options.timestamp.isSome then .error .refusal
    else
      match Text.readNumber value with
      | .error _ => .error .refusal
      | .ok timestamp => .ok { options with timestamp := some timestamp }

/-- The options that arguments give, in addition to those given before. -/
def Options.read (options : Options) : List String → Except Interruption Options
  | [] => .ok options
  | [text] =>
    match Argument.of text with
    | .help => .error .help
    | .ending => .ok options
    | .flag flag (some value) => options.give flag value
    | _ => .error .refusal
  | text :: next :: rest =>
    match Argument.of text with
    | .help => .error .help
    | .flag flag (some value) => do
      let options ← options.give flag value
      options.read (next :: rest)
    | .flag flag none =>
      match Argument.of next with
      | .value value => do
        let options ← options.give flag value
        options.read rest
      | _ => .error .refusal
    | _ => .error .refusal

/-! ## Invocations -/

namespace Invocation

/-- What options ask for: both are needed. -/
def ofOptions : Except Interruption Options → Invocation
  | .ok ⟨some signature, some timestamp⟩ => command (.submit signature timestamp)
  | .ok _ => refused
  | .error .refusal => refused
  | .error .help => help .submit

/-- What arguments behind `generate` ask for. -/
def ofGenerate : List String → Invocation
  | [] => command .generate
  | first :: rest =>
    if asksForHelp first.toList then help .generate
    else if first = "--" ∧ rest = [] then command .generate
    else refused

/-- What arguments behind `help` ask for. -/
def ofHelp : List String → Invocation
  | [] => help .program
  | ["generate"] => help .generate
  | ["submit"] => help .submit
  | ["help"] => help .help
  | _ => refused

/-- What arguments ask for. -/
def read : List String → Invocation
  | "generate" :: rest => ofGenerate rest
  | "submit" :: rest => ofOptions (Options.read {} rest)
  | "help" :: rest => ofHelp rest
  | first :: _ =>
    if asksForHelp first.toList then help .program
    else if asksForVersion first.toList then version
    else refused
  | [] => refused

end Invocation

end ExecutorRegistration
