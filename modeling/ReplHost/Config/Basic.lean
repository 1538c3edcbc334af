import ReplHost.Cli.Args
import ReplHost.Process.Spec
import ReplHost.Session.Options
import ReplHost.Activation.Settings

/-! # The host's configuration

  A `Config` has four sections: how consoles are started, how their output is
  handled, how the activation controller behaves, and the log filter. Every
  field has a default, so an empty configuration is complete.

  Settings come from four places, each overriding the one before: the
  defaults, a configuration file, environment variables, and the command
  line. An empty environment variable leaves the program, the working
  directory and the title alone, but does set the log filter; the command
  line's console arguments replace the configured ones only when there is at
  least one.

  From a configuration the host derives the launch spec of new consoles,
  their output options, the controller's settings and the log filter.
-/

namespace ReplHost

/-- How consoles are started. -/
structure ConsoleSection where
  /-- The console program. -/
  executable : String := "evcxr"
  /-- Its arguments. -/
  args : List String := ["--disable-readline"]
  /-- The working directory of new consoles. -/
  workingDir : Option String := none
  /-- The base display name. -/
  title : String := defaultTitle
  /-- Terminal width; wide, so that the console never wraps. -/
  columns : Nat := 1024
  /-- Terminal height. -/
  rows : Nat := 24
  /-- Extra environment variables, each name once. -/
  env : List (String × String) := []
  deriving DecidableEq, Repr

/-- How console output is handled. -/
structure OutputSection where
  /-- Bytes kept while nothing shows the output. -/
  bufferLimit : Nat := defaultBufferLimit
  /-- Strip escape sequences. -/
  stripAnsi : Bool := true
  /-- Report the exit code when a console ends. -/
  reportExit : Bool := true
  deriving DecidableEq, Repr

/-- How the activation controller behaves. -/
structure ActivationSection where
  /-- Start a console when the container is shown empty. -/
  autoRespawn : Bool := true
  /-- Hide the container once its last console is closed. -/
  hideWhenEmpty : Bool := true
  deriving DecidableEq, Repr

/-- The log filter. -/
structure LoggingSection where
  /-- A level or a full filter. -/
  level : String := "info"
  deriving DecidableEq, Repr

/-- The host's configuration. -/
structure Config where
  console : ConsoleSection := {}
  output : OutputSection := {}
  activation : ActivationSection := {}
  logging : LoggingSection := {}
  deriving DecidableEq, Repr

namespace Config

/-- The environment variable that sets the console program. -/
def executableVar : String := "CONSOLE_HOST_EXECUTABLE"
/-- The environment variable that sets the working directory. -/
def workDirVar : String := "CONSOLE_HOST_WORKDIR"
/-- The environment variable that sets the base title. -/
def titleVar : String := "CONSOLE_HOST_TITLE"
/-- The environment variable that sets the log filter. -/
def logLevelVar : String := "CONSOLE_HOST_LOG_LEVEL"
/-- The general log filter variable, read when `logLevelVar` is unset. -/
def fallbackLogVar : String := "RUST_LOG"

/-- A value, unless it is empty. -/
def nonEmpty (v : Option String) : Option String := v.filter (· ≠ "")

/-- Applies the environment, given as a lookup of variables. -/
def applyVars (c : Config) (var : String → Option String) : Config :=
  let console := c.console
  let console := match nonEmpty (var executableVar) with
    | some v => { console with executable := v }
    | none => console
  let console := match nonEmpty (var workDirVar) with
    | some v => { console with workingDir := some v }
    | none => console
  let console := match nonEmpty (var titleVar) with
    | some v => { console with title := v }
    | none => console
  let level := match var logLevelVar with
    | some v => v
    | none => (var fallbackLogVar).getD c.logging.level
  { c with console := console, logging := { level := level } }

/-- Applies the command line. -/
def applyArgs (c : Config) (a : Cli.Args) : Config :=
  let console := c.console
  let console := { console with
    executable := a.executable.getD console.executable
    args := if a.args.isEmpty then console.args else a.args
    workingDir := a.workingDir.or console.workingDir
    title := a.title.getD console.title }
  { c with console := console, logging := { level := a.logLevel.getD c.logging.level } }

/-- The launch spec of new consoles. -/
def launchSpec (c : Config) : LaunchSpec where
  program := c.console.executable
  args := c.console.args
  workingDir := c.console.workingDir
  env := c.console.env
  size := { rows := c.console.rows, cols := c.console.columns }

/-- The output options of new consoles. -/
def outputOptions (c : Config) : OutputOptions where
  bufferLimit := c.output.bufferLimit
  stripAnsi := c.output.stripAnsi
  reportExit := c.output.reportExit

/-- The settings of the activation controller. -/
def activationSettings (c : Config) : ActivationSettings where
  title := c.console.title
  autoRespawn := c.activation.autoRespawn
  hideWhenEmpty := c.activation.hideWhenEmpty

/-- The log filter. -/
def logFilter (c : Config) : String := c.logging.level

end Config

end ReplHost
