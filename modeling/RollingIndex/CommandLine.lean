import RollingIndex.Naming

/-!
# The command line

A command line consists of options. An option that takes a value is written `--port 5`, `--port=5`,
`-p 5`, `-p5` or `-p=5`, and once at most. A value that is a word of its own does not start with a
hyphen, unless it is a hyphen and nothing else. The words are read from left to right, and the first
one that cannot be used decides what is wrong; a request for help or for the version that comes
before it ends the reading. Nothing but the end may come after the word `--`.
-/

namespace RollingIndex

/-! ## Options -/

/-- An option that takes a value. -/
inductive OptionKey where
  /-- the configuration file -/
  | config
  /-- the port of the admin interface -/
  | port
  /-- the number of rotated indices to keep -/
  | maxIndices
deriving DecidableEq, Repr

/-- The name of an option. -/
def OptionKey.name : OptionKey → String
  | config => "config"
  | port => "port"
  | maxIndices => "max-indices"

/-- What the options of a command line set. -/
structure Options where
  /-- the configuration file -/
  config : Option String := none
  /-- the port of the admin interface, in place of the configured one -/
  port : Option Nat := none
  /-- the number of rotated indices to keep, in place of the configured one -/
  maxIndices : Option Nat := none
deriving DecidableEq, Repr

/-- Why a command line cannot be used. -/
inductive UsageFault where
  /-- a word that is no option -/
  | unexpected (word : String)
  /-- an option that takes no value has one -/
  | unwantedValue (word : String)
  /-- an option has no value -/
  | missingValue (key : OptionKey)
  /-- an option cannot have this value -/
  | invalidValue (key : OptionKey) (value : String)
  /-- an option is there twice -/
  | repeated (key : OptionKey)
deriving DecidableEq, Repr

/-- The wording of a fault. -/
def UsageFault.message : UsageFault → String
  | unexpected word => "unexpected argument '" ++ word ++ "'"
  | unwantedValue word => "no value is allowed in '" ++ word ++ "'"
  | missingValue key => "a value is required for '--" ++ key.name ++ "'"
  | invalidValue key value => "invalid value '" ++ value ++ "' for '--" ++ key.name ++ "'"
  | repeated key => "the argument '--" ++ key.name ++ "' cannot be used multiple times"

/-- A port: a decimal number below `2 ^ 16`, which a sign may precede; with a minus it is zero. -/
def readPort? : List Char → Option Nat
  | '-' :: digits => (readDigits? digits).filter (· = 0)
  | text => (readNumber? text).filter (fitsBits 16)

/-- Give an option its value. -/
def Options.put (options : Options) (key : OptionKey) (value : String) :
    Except UsageFault Options :=
  match key with
  | .config =>
    if options.config.isSome then .error (.repeated key)
    else if value = "" then .error (.invalidValue key value)
    else .ok { options with config := some value }
  | .port =>
    if options.port.isSome then .error (.repeated key)
    else
      match readPort? value.toList with
      | some port => .ok { options with port := some port }
      | none => .error (.invalidValue key value)
  | .maxIndices =>
    if options.maxIndices.isSome then .error (.repeated key)
    else
      match readNumber? value.toList with
      | some count => .ok { options with maxIndices := some count }
      | none => .error (.invalidValue key value)

/-! ## Words -/

/-- What one word of a command line says. -/
inductive Word where
  /-- describe the options -/
  | help
  /-- name the version -/
  | version
  /-- an option, with its value if that is part of the word -/
  | option (key : OptionKey) (value : Option String)
  /-- no more options -/
  | endOfOptions

namespace Word

/-- Whether a word is an option and cannot be a value. -/
def isOption (word : String) : Bool :=
  match word.toList with
  | '-' :: _ :: _ => true
  | _ => false

/-- The text behind an equals sign, if there is such a sign in front. -/
def afterEquals : List Char → Option String
  | '=' :: value => some (String.ofList value)
  | _ => none

/-- A word that starts with two hyphens, by what comes after them. -/
def readLong (word : String) (text : List Char) : Except UsageFault Word :=
  let value := afterEquals (text.dropWhile (· ≠ '='))
  let plain (meaning : Word) : Except UsageFault Word :=
    if value.isSome then .error (.unwantedValue word) else .ok meaning
  match String.ofList (text.takeWhile (· ≠ '=')) with
  | "help" => plain .help
  | "version" => plain .version
  | "config" => .ok (.option .config value)
  | "port" => .ok (.option .port value)
  | "max-indices" => .ok (.option .maxIndices value)
  | _ => .error (.unexpected word)

/-- The value that is part of a short option: what comes after the letter and an equals sign, if
there is one. -/
def attached (text : List Char) : Option String :=
  match text with
  | [] => none
  | text => (afterEquals text).or (some (String.ofList text))

/-- A word that starts with one hyphen, by the letter and what comes after it. -/
def readShort (word : String) (letter : Char) (text : List Char) : Except UsageFault Word :=
  match letter with
  | 'h' => .ok .help
  | 'V' => .ok .version
  | 'c' => .ok (.option .config (attached text))
  | 'p' => .ok (.option .port (attached text))
  | _ => .error (.unexpected word)

/-- What a word says that is not the value of an option. -/
def read (word : String) : Except UsageFault Word :=
  match word.toList with
  | ['-', '-'] => .ok .endOfOptions
  | '-' :: '-' :: text => readLong word text
  | '-' :: letter :: text => readShort word letter text
  | _ => .error (.unexpected word)

end Word

/-! ## Command lines -/

/-- What a command line asks for. -/
inductive Invocation where
  /-- describe the options -/
  | help
  /-- name the version -/
  | version
  /-- start with these options -/
  | start (options : Options)
deriving DecidableEq, Repr

namespace Invocation

/-- Read the words that are left, with the options set so far. -/
def readWords (options : Options) : List String → Except UsageFault Invocation
  | [] => .ok (.start options)
  | word :: rest => do
    match ← Word.read word with
    | .help => return .help
    | .version => return .version
    | .endOfOptions =>
      match rest with
      | [] => return .start options
      | extra :: _ => throw (.unexpected extra)
    | .option key (some value) => readWords (← options.put key value) rest
    | .option key none =>
      match rest with
      | [] => throw (.missingValue key)
      | value :: rest =>
        if Word.isOption value then throw (.missingValue key)
        else readWords (← options.put key value) rest

/-- What a command line asks for. -/
def ofWords (words : List String) : Except UsageFault Invocation := readWords {} words

end Invocation

/-- The name of the program and its version. -/
def versionText : String := "idx-deflector 0.3.2\n"

/-- What the program is for and which options it has. -/
def helpText : String :=
  "Index lifecycle manager with deflector rotation and retention\n\n" ++
  "Usage: idx-deflector [OPTIONS]\n\n" ++
  "Options:\n" ++
  "  -c, --config <CONFIG>            the configuration file, in place of the defaults\n" ++
  "  -p, --port <PORT>                the port of the admin interface\n" ++
  "      --max-indices <MAX_INDICES>  the number of rotated indices to keep\n" ++
  "  -h, --help                       Print help\n" ++
  "  -V, --version                    Print version\n"

end RollingIndex
