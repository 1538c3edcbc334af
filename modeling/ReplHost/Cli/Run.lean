import ReplHost.Cli.Args
import ReplHost.Config.Load
import ReplHost.Host.Activation
import ReplHost.Logging.Setup
import ReplHost.Session.Id
import ReplHost.Terminal.Process

/-! # One run of the command-line program

  The program reads its command line, prints help or its version when
  asked, loads its configuration, and then hosts one console in a visible
  container whose surfaces print to standard output. Each line of standard
  input is submitted to the selected console. The program stops when the
  console leaves the running state or standard input ends; it then stops
  and disposes every console and exits with status 0.

  A command line that cannot be read ends the program with status 2, a
  configuration or a console that cannot be loaded or started with status
  1; the error goes to standard error.

  Standard input is given as text. Its complete lines can be read at once;
  a last line without a line feed is only read when the input closes, which
  it does once the console has nothing more to read.

  Log events go to standard error in the compact log format, one line each
  that starts with the time. The time is not part of this model: standard
  error is given without the lines that carry one. What is left of an event
  are the lines a field with line feeds in it runs on over.
-/

namespace ReplHost.Cli

/-- The program's version. -/
def version : String := "0.1.0"

/-- The program's name. -/
def programName : String := "console-host"

/-- The version text. -/
def versionText : String := programName ++ " " ++ version ++ "\n"

/-- The help text. -/
def helpText : String :=
  programName ++ " " ++ version ++ "\n" ++
  "Interactive REPL console host\n\n" ++
  "USAGE:\n" ++
  "    console-host [OPTIONS] [-- ARGS...]\n\n" ++
  "OPTIONS:\n" ++
  "    -c, --config <FILE>       Path to configuration file (JSON)\n" ++
  "    -e, --executable <EXE>    REPL executable [default: evcxr]\n" ++
  "    -C, --working-dir <DIR>   Working directory for new consoles\n" ++
  "    -t, --title <TITLE>       Console display name [default: Rust REPL]\n" ++
  "    -l, --log-level <LVL>     Log level (error, warn, info, debug, trace)\n" ++
  "    -h, --help                Print help\n" ++
  "    -V, --version             Print version\n\n" ++
  "ARGS:\n" ++
  "    Arguments after `--` replace the configured REPL arguments.\n\n" ++
  "ENVIRONMENT VARIABLES:\n" ++
  "    CONSOLE_HOST_EXECUTABLE   REPL executable (overrides config)\n" ++
  "    CONSOLE_HOST_WORKDIR      Working directory (overrides config)\n" ++
  "    CONSOLE_HOST_TITLE        Display name (overrides config)\n" ++
  "    CONSOLE_HOST_LOG_LEVEL    Log level (overrides config)\n" ++
  "    RUST_LOG                  Alternative log level setting\n\n" ++
  "EXAMPLES:\n" ++
  "    # Start an evcxr console in the current directory\n" ++
  "    console-host\n\n" ++
  "    # Use a config file and a project directory\n" ++
  "    console-host -c ~/.config/console-host.json -C ~/src/scratch\n\n" ++
  "    # Run another line-oriented REPL\n" ++
  "    console-host -e python3 -t Python -- -i -q\n\n"

/-- What the program is run with. -/
structure Invocation where
  /-- The arguments after the program name. -/
  argv : List String
  /-- The environment, in order; a later binding of a name wins. -/
  env : List (String × String)
  /-- The file system. -/
  fs : FileSystem := FileSystem.standard
  /-- The working directory. -/
  cwd : String := "/"
  /-- Standard input. -/
  stdin : String := ""

/-- How the program ended. -/
structure Exit where
  code : Nat
  stdout : String := ""
  /-- Standard error, without the lines that carry a log time. -/
  stderr : String := ""
  deriving DecidableEq, Repr

/-- Whether `cs` starts with a log time, `dddd-dd-ddTdd:dd:dd`. -/
def startsWithStamp (cs : List Char) : Bool :=
  let shape := "dddd-dd-ddTdd:dd:dd".toList
  shape.length ≤ cs.length &&
    (shape.zip cs).all fun (p, c) => if p = 'd' then c.isDigit else p = c

/-- Whether a line holds a log time anywhere. -/
def hasStamp : List Char → Bool
  | [] => false
  | c :: cs => startsWithStamp (c :: cs) || hasStamp cs

/-- Text without the lines that hold a log time. -/
def dropStamped (text : String) : String :=
  let lines := text.splitOn "\n"
  let kept := lines.dropLast.filter (fun l => !hasStamp l.toList)
  let last := lines.getLast?.getD ""
  String.join (kept.map (· ++ "\n")) ++ (if hasStamp last.toList then "" else last)

/-- A log event that may run over several lines. -/
structure LogEvent where
  level : Logging.Level
  target : String
  /-- The event's text from the first field that may hold a line feed to
      its end, as the compact format writes it: `name=value` pairs joined
      by spaces, values shown as they are. -/
  tail : String

/-- What an event leaves on standard error when the filter lets it
    through: the lines after its first. -/
def LogEvent.runOn (f : Logging.Filter) (e : LogEvent) : String :=
  if f.allows e.target e.level then
    match e.tail.splitOn "\n" with
    | _ :: rest@(_ :: _) => String.join (rest.map (· ++ "\n"))
    | _ => ""
  else ""

/-- The log target of a console session. -/
def sessionTarget : String := Logging.hostTarget ++ "::session::console"

/-- The log target of the terminal launcher. -/
def launcherTarget : String := Logging.hostTarget ++ "::process::pty"

/-- The log target of the activation controller. -/
def controllerTarget : String := Logging.hostTarget ++ "::activation::controller"

/-- The session starts its program. -/
def startingEvent (command : String) : LogEvent :=
  { level := .debug, target := sessionTarget, tail := "command=" ++ command }

/-- The launcher has started the program. -/
def spawnedEvent (command : String) : LogEvent :=
  { level := .debug, target := launcherTarget, tail := "command=" ++ command }

/-- The program could not be started. -/
def failedEvent (error : String) : LogEvent :=
  { level := .warn, target := sessionTarget, tail := "error=" ++ error }

/-- The controller has put a new entry in the container for session `id`. -/
def addedEvent (name : String) (id : SessionId) : LogEvent :=
  { level := .debug, target := controllerTarget,
    tail := "name=" ++ name ++ " session=" ++ id.render }

/-- The program's console is ready. -/
def readyEvent (command : String) : LogEvent :=
  { level := .info, target := Logging.hostTarget, tail := "command=" ++ command }

/-- A session has been disposed. -/
def disposedEvent (name : String) : LogEvent :=
  { level := .debug, target := sessionTarget, tail := "name=" ++ name }

/-- The session identifier of the session at index `s`: the program's
    sessions are numbered from one. -/
def idOf (s : Nat) : SessionId := ⟨s + 1⟩

/-- The lines of standard input: the complete ones, and what follows the
    last line feed. -/
def inputLines (text : String) : List String × String :=
  let parts := text.splitOn "\n"
  let strip := fun (l : String) => if l.endsWith "\r" then String.ofList l.toList.dropLast else l
  (parts.dropLast.map strip, (parts.getLast?.getD ""))

/-- What the program has printed: all output of every kind, in order. -/
def printed (h : Host TerminalProcess) : String :=
  String.join (h.sinks.toList.flatMap fun s => s.chunks.map (·.text))

namespace Invocation

/-- The value of an environment variable. -/
def var (i : Invocation) (name : String) : Option String :=
  (i.env.filter (·.1 = name)).getLast?.map (·.2)

/-- The host the program sets up for a configuration. -/
def host (i : Invocation) (c : Config) : Host TerminalProcess :=
  let env := i.env.foldl (fun acc kv => acc.filter (·.1 ≠ kv.1) ++ [kv]) []
  { container := { visible := true },
    controller := some { settings := c.activationSettings },
    launcher := { kind := .terminal, pty := TerminalProcess.pty i.fs, env := env },
    factory := { spec := c.launchSpec, options := c.outputOptions } }

/-- Submits standard input to the selected console while the console `s`
    runs. `lines` are the complete lines not read yet, `rest` the unfinished
    last line, read when the input closes. Returns the host and what went to
    standard error. -/
def feed (s : Nat) (rest : String) : Host TerminalProcess → List String → List String → Host TerminalProcess × List String
  | h, [], errs =>
    if rest.isEmpty || h.stateOf s ≠ .running then (h, errs)
    else
      let (h, errs) := submit h rest errs
      (h.settle, errs)
  | h, line :: more, errs =>
    if h.stateOf s ≠ .running then (h, errs)
    else
      let (h, errs) := submit h line errs
      feed s rest h.settle more errs
where
  /-- Submits one line to the selected console. -/
  submit (h : Host TerminalProcess) (line : String) (errs : List String) : Host TerminalProcess × List String :=
    match h.selectedSession with
    | none => (h, errs ++ [HostError.consoleNotEnabled.message])
    | some s =>
      match h.execute s line with
      | (h, .ok ()) => (h, errs)
      | (h, .error e) => (h, errs ++ [e.message])

/-- Stops every console and disposes it, as the program does before it
    exits. -/
def shutdown (h : Host TerminalProcess) : Host TerminalProcess :=
  let h := h.allSessions.foldl (fun h s => (h.terminate s).1) h
  (h.removeMatching .controller fun _ => true).1

/-- The names of the sessions that `after` has disposed and `before` had
    not, in session order. -/
def newlyDisposed (before after : Host TerminalProcess) : List String :=
  after.sessions.toList.zipIdx.filterMap fun (x, s) =>
    if x.state = .disposed && before.stateOf s ≠ .disposed then some x.name else none

/-- Runs the program. -/
def run (i : Invocation) : Exit :=
  match parse i.argv with
  | .error e => { code := 2, stderr := "error: " ++ e.message ++ "\nRun with --help for usage.\n" }
  | .ok a =>
    if a.help then { code := 0, stdout := helpText }
    else if a.version then { code := 0, stdout := versionText }
    else
      match Config.load i.fs i.cwd i.var a with
      | .error e => { code := 1, stderr := "error: " ++ e.message ++ "\n" }
      | .ok c =>
        let f := Logging.scopedFilter c.logFilter
        let log := fun (es : List LogEvent) => String.join (es.map (·.runOn f))
        let command := c.launchSpec.commandLine
        let h₀ := i.host c
        let name := h₀.nextName
        let id := idOf h₀.sessions.size
        match h₀.launchNew with
        | (_, .error (.error e)) =>
          let logged := log [startingEvent command, failedEvent e.message, disposedEvent name]
          { code := 1, stderr := dropStamped (logged ++ "error: " ++ e.message ++ "\n") }
        | (_, .error (.panic t)) => { code := 1, stderr := "error: " ++ t ++ "\n" }
        | (h, .ok s) =>
          let started := log [startingEvent command, spawnedEvent command, addedEvent name id,
            readyEvent command]
          let (lines, rest) := inputLines i.stdin
          let (h, errs) := feed s rest h.settle lines []
          let h' := shutdown h
          let stopped := log ((newlyDisposed h h').map disposedEvent)
          { code := 0, stdout := printed h',
            stderr := dropStamped (started ++ String.join (errs.map (· ++ "\n")) ++ stopped) }

end Invocation

end ReplHost.Cli
