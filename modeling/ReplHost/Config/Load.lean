import ReplHost.Config.Basic
import ReplHost.Json.Record
import ReplHost.Os.Files

/-! # Loading the configuration

  A configuration file is JSON: an object with the members `console`,
  `output`, `activation` and `logging`, each an object of that section's
  fields (or an array of them in order). Field names are those of the
  sections in snake case. Terminal sizes are 16-bit and the buffer limit is a
  64-bit size.

  `Config.load` reads the file the command line names, if any, then applies
  the environment and the command line. It fails when the file cannot be
  read (`ConfigError.read`) or is not a valid configuration
  (`ConfigError.parse`).
-/

namespace ReplHost

open Json

/-- The largest 16-bit value. -/
def u16Max : Nat := 65535

/-- How the fields of the console section are read. -/
def consoleFields : List (FieldReader ConsoleSection) :=
  [ ⟨"executable", fun s => do return { s with executable := ← readString "a string" }⟩,
    ⟨"args", fun s => do return { s with args := ← readStrings }⟩,
    ⟨"working_dir", fun s => do
      return { s with workingDir := ← readOptional (readString "path string") }⟩,
    ⟨"title", fun s => do return { s with title := ← readString "a string" }⟩,
    ⟨"columns", fun s => do return { s with columns := ← readUnsigned u16Max "u16" }⟩,
    ⟨"rows", fun s => do return { s with rows := ← readUnsigned u16Max "u16" }⟩,
    ⟨"env", fun s => do return { s with env := ← readStringMap }⟩ ]

/-- How the fields of the output section are read. -/
def outputFields : List (FieldReader OutputSection) :=
  [ ⟨"buffer_limit", fun s => do
      return { s with bufferLimit := ← readUnsigned Decimal.wordMax "usize" }⟩,
    ⟨"strip_ansi", fun s => do return { s with stripAnsi := ← readBool }⟩,
    ⟨"report_exit", fun s => do return { s with reportExit := ← readBool }⟩ ]

/-- How the fields of the activation section are read. -/
def activationFields : List (FieldReader ActivationSection) :=
  [ ⟨"auto_respawn", fun s => do return { s with autoRespawn := ← readBool }⟩,
    ⟨"hide_when_empty", fun s => do return { s with hideWhenEmpty := ← readBool }⟩ ]

/-- How the fields of the logging section are read. -/
def loggingFields : List (FieldReader LoggingSection) :=
  [ ⟨"level", fun s => do return { s with level := ← readString "a string" }⟩ ]

/-- How the sections of a configuration are read. -/
def configFields : List (FieldReader Config) :=
  [ ⟨"console", fun c => do
      return { c with console := ← readRecord "ConsoleSection" consoleFields c.console }⟩,
    ⟨"output", fun c => do
      return { c with output := ← readRecord "OutputSection" outputFields c.output }⟩,
    ⟨"activation", fun c => do
      return { c with activation := ← readRecord "ActivationSection" activationFields c.activation }⟩,
    ⟨"logging", fun c => do
      return { c with logging := ← readRecord "LoggingSection" loggingFields c.logging }⟩ ]

/-- Why the configuration could not be loaded. -/
inductive ConfigError where
  /-- The file could not be read. -/
  | read (cause : IoError)
  /-- The file is not a valid configuration. -/
  | parse (cause : Json.Error)
  deriving Repr

namespace ConfigError

/-- The name of the cause, as answers report it. -/
def tag : ConfigError → String
  | read _ => "Io"
  | parse _ => "Json"

/-- The message shown to a user. -/
def message : ConfigError → String
  | read e => "failed to read config file: " ++ e.message
  | parse e => "failed to parse config file: " ++ e.message

end ConfigError

namespace Config

/-- Reads a configuration from the bytes of a JSON text. -/
def parse (bytes : List UInt8) : Except Json.Error Config :=
  readDocument (readRecord "Config" configFields {}) bytes

/-- The error of a file that is not UTF-8 text. -/
def notText : IoError := .custom .invalidData "stream did not contain valid UTF-8"

/-- Reads the configuration file at `path`. -/
def fromFile (fs : FileSystem) (cwd path : String) : Except ConfigError Config :=
  match fs.read cwd path with
  | .error e => .error (.read e)
  | .ok bytes =>
    if (Utf8.firstProblem? bytes).isSome then .error (.read notText)
    else (parse bytes).mapError .parse

/-- Loads the configuration: the file the command line names (or the
    defaults), then the environment, then the command line. -/
def load (fs : FileSystem) (cwd : String) (var : String → Option String) (a : Cli.Args) :
    Except ConfigError Config := do
  let base ← match a.config with
    | some path => fromFile fs cwd path
    | none => pure {}
  return (base.applyVars var).applyArgs a

end Config

end ReplHost
