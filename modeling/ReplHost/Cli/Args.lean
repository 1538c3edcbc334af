import ReplHost.Text.Chars
import ReplHost.Text.Quoted

/-! # The command line

  The host is started as `console-host [OPTIONS] [-- ARGS...]`. Everything
  after the first `--` is handed to the console program untouched; the words
  before it are read as options:

  - a long option is `--name` or `--name=value`;
  - a word `-abc` is a cluster of short options, read left to right; an option
    that takes a value takes the rest of the cluster (after one optional `=`)
    or, when the cluster ends there, the next word, whatever it looks like;
  - a lone `-` and any word not starting with `-` is a stray argument.

  Reading stops at the first error. The errors are those of the option
  tokenizer (an unknown option, a missing value, a value given to a flag)
  and two of the host's own: a blank title, and a stray argument. A later
  occurrence of an option overrides an earlier one.
-/

namespace ReplHost.Cli

/-- Options without a value. -/
inductive Flag where
  /-- `-h`, `--help`. -/
  | help
  /-- `-V`, `--version`. -/
  | version
  deriving DecidableEq, Repr

/-- Options with a value. -/
inductive Setting where
  /-- `-c`, `--config`: the configuration file. -/
  | config
  /-- `-e`, `--executable`: the console program. -/
  | executable
  /-- `-C`, `--working-dir`: the working directory of new consoles. -/
  | workingDir
  /-- `-t`, `--title`: the base display name. -/
  | title
  /-- `-l`, `--log-level`: the log filter. -/
  | logLevel
  deriving DecidableEq, Repr

/-- An option the host understands. -/
inductive Opt where
  | flag (f : Flag)
  | setting (s : Setting)
  deriving DecidableEq, Repr

namespace Opt

/-- The option a short letter names. -/
def ofShort? : Char → Option Opt
  | 'h' => some (.flag .help)
  | 'V' => some (.flag .version)
  | 'c' => some (.setting .config)
  | 'e' => some (.setting .executable)
  | 'C' => some (.setting .workingDir)
  | 't' => some (.setting .title)
  | 'l' => some (.setting .logLevel)
  | _ => none

/-- The option a long name names. -/
def ofLong? : String → Option Opt
  | "help" => some (.flag .help)
  | "version" => some (.flag .version)
  | "config" => some (.setting .config)
  | "executable" => some (.setting .executable)
  | "working-dir" => some (.setting .workingDir)
  | "title" => some (.setting .title)
  | "log-level" => some (.setting .logLevel)
  | _ => none

end Opt

/-- What the command line asks for. -/
structure Args where
  /-- Path of the configuration file. -/
  config : Option String := none
  /-- The console program, overriding the configuration. -/
  executable : Option String := none
  /-- The working directory of new consoles. -/
  workingDir : Option String := none
  /-- The base display name. -/
  title : Option String := none
  /-- The log filter. -/
  logLevel : Option String := none
  /-- The words after `--`, for the console program. -/
  args : List String := []
  /-- Print the version and stop. -/
  version : Bool := false
  /-- Print the help and stop. -/
  help : Bool := false
  deriving DecidableEq, Repr

/-- Why the command line could not be read. -/
inductive ArgsError where
  /-- An option that takes a value came last. -/
  | missingValue (option : String)
  /-- A flag was given a value with `=`. -/
  | unexpectedValue (option value : String)
  /-- An option the host does not know. -/
  | unknownOption (option : String)
  /-- A value the host refuses: a blank title. -/
  | invalidValue (name value : String)
  /-- A word that is not an option. -/
  | unexpectedArgument (value : String)
  deriving DecidableEq, Repr

namespace ArgsError

/-- The name of the cause, as answers report it. -/
def tag : ArgsError → String
  | missingValue _ | unexpectedValue _ _ | unknownOption _ => "Lexopt"
  | invalidValue _ _ => "InvalidValue"
  | unexpectedArgument _ => "UnexpectedArgument"

/-- The message shown to a user. -/
def message : ArgsError → String
  | missingValue o => "missing argument for option '" ++ o ++ "'"
  | unexpectedValue o v => "unexpected argument for option '" ++ o ++ "': " ++ Text.quote v
  | unknownOption o => "invalid option '" ++ o ++ "'"
  | invalidValue n v => "invalid value for --" ++ n ++ ": '" ++ v ++ "'"
  | unexpectedArgument v => "unexpected argument: '" ++ v ++ "'"

end ArgsError

/-- How a short option is written. -/
def shortName (c : Char) : String := String.ofList ['-', c]

/-- How a long option is written. -/
def longName (n : String) : String := "--" ++ n

namespace Args

/-- Sets a flag. -/
def raise (a : Args) : Flag → Args
  | .help => { a with help := true }
  | .version => { a with version := true }

/-- Records a setting's value; a title must not be blank. -/
def assign (a : Args) (s : Setting) (v : String) : Except ArgsError Args :=
  match s with
  | .config => .ok { a with config := some v }
  | .executable => .ok { a with executable := some v }
  | .workingDir => .ok { a with workingDir := some v }
  | .logLevel => .ok { a with logLevel := some v }
  | .title =>
    if Text.trim v.toList = [] then .error (.invalidValue "title" v)
    else .ok { a with title := some v }

end Args

/-- Splits a long option's body at its first `=`: the name and the value. -/
def splitLong (body : List Char) : String × Option String :=
  match body.span (· ≠ '=') with
  | (name, _ :: value) => (String.ofList name, some (String.ofList value))
  | (name, []) => (String.ofList name, none)

/-- Reads a cluster of short options. `first` tells whether `cs` starts right
    after the dash, `last` is the option read before, and `next?` the word
    after the cluster. Returns the arguments and whether that word was taken
    as a value. -/
def readCluster (first : Bool) (last : Char) (next? : Option String) :
    List Char → Args → Except ArgsError (Args × Bool)
  | [], a => .ok (a, false)
  | c :: more, a =>
    if c = '=' && !first then .error (.unexpectedValue (shortName last) (String.ofList more))
    else
      match Opt.ofShort? c with
      | none => .error (.unknownOption (shortName c))
      | some (.flag f) => readCluster false c next? more (a.raise f)
      | some (.setting s) =>
        match more with
        | [] =>
          match next? with
          | some v => (a.assign s v).map fun a' => (a', true)
          | none => .error (.missingValue (shortName c))
        | '=' :: v => (a.assign s (String.ofList v)).map fun a' => (a', false)
        | v => (a.assign s (String.ofList v)).map fun a' => (a', false)

/-- Reads the option words (those before the first `--`). -/
def readOptions : List String → Args → Except ArgsError Args
  | [], a => .ok a
  | word :: rest, a =>
    match word.toList with
    | '-' :: '-' :: body =>
      let (name, value?) := splitLong body
      match Opt.ofLong? name, value? with
      | none, _ => .error (.unknownOption (longName name))
      | some (.flag _), some v => .error (.unexpectedValue (longName name) v)
      | some (.flag f), none => readOptions rest (a.raise f)
      | some (.setting s), some v =>
        match a.assign s v with
        | .ok a' => readOptions rest a'
        | .error e => .error e
      | some (.setting s), none =>
        match rest with
        | v :: rest' =>
          match a.assign s v with
          | .ok a' => readOptions rest' a'
          | .error e => .error e
        | [] => .error (.missingValue (longName name))
    | '-' :: c :: more =>
      match readCluster true c rest.head? (c :: more) a with
      | .error e => .error e
      | .ok (a', false) => readOptions rest a'
      | .ok (a', true) =>
        match rest with
        | _ :: rest' => readOptions rest' a'
        | [] => readOptions [] a'
    | _ => .error (.unexpectedArgument word)

/-- Splits the words at the first `--`: the option words, and the words
    after it (empty when there is no `--`). -/
def splitTrailing : List String → List String × List String
  | [] => ([], [])
  | w :: rest =>
    if w = "--" then ([], rest)
    else
      let (opts, trailing) := splitTrailing rest
      (w :: opts, trailing)

/-- Reads a command line, given the words after the program name. -/
def parse (words : List String) : Except ArgsError Args :=
  let (opts, trailing) := splitTrailing words
  readOptions opts { args := trailing }

end ReplHost.Cli
