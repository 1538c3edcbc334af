import ReplHost.Session.State
import ReplHost.Session.Options
import ReplHost.Process.Spec
import ReplHost.Output.Buffer
import ReplHost.Output.Prompt
import ReplHost.Text.Quoted

/-! # Console sessions

  A `Session` is one interactive console: the spec it starts its process
  with, how it treats output, and its lifecycle state. While no sink shows
  its output it keeps the latest output in a bounded buffer; it tracks the
  echo and prompt of submitted lines; it records the exit code of its
  process. The process, the sink and the output reader are held by
  reference (their index in the host), so a session's own operations here
  only change the session; the host module wires them to the rest.
-/

namespace ReplHost

/-- One interactive console. -/
structure Session where
  /-- The label shown by the host, also its registry key. -/
  name : String
  /-- How its process is started. -/
  spec : LaunchSpec
  /-- How it treats output. -/
  options : OutputOptions
  /-- The lifecycle state. -/
  state : SessionState := .created
  /-- The state last sent to watchers of the lifecycle. -/
  published : SessionState := .created
  /-- A start is in progress. -/
  starting : Bool := false
  /-- The sink output goes to, by reference; it may have gone away. -/
  sink : Option Nat := none
  /-- Output kept while no sink takes it. -/
  buffer : OutputBuffer
  /-- The process input is written to, by reference. -/
  writer : Option Nat := none
  /-- The process it controls, by reference. -/
  control : Option Nat := none
  /-- Whether the process reported an identifier. -/
  hasPid : Bool := false
  /-- The exit code, once the process ended. -/
  exitCode : Option Int := none
  /-- Echo and prompt tracking. -/
  prompt : PromptTracker := {}
  deriving Repr

namespace Session

/-- A new session in the `created` state. -/
def create (name : String) (spec : LaunchSpec) (options : OutputOptions) : Session :=
  { name := name, spec := spec, options := options, buffer := OutputBuffer.withLimit options.bufferLimit }

/-- Whether a submitted line is still being evaluated. -/
def executing (s : Session) : Bool := s.prompt.executing

/-- Enters a lifecycle state and sends it to watchers. Callers check first
    that the table allows the move. -/
def enter (s : Session) (target : SessionState) : Session :=
  { s with state := target, published := target }

/-- Records the end of the process's output: the exit code found, if any, is
    kept, and a running session stops and drops the process's input. -/
def outputEnded (s : Session) (code : Option Int) : Session :=
  let s := if code.isSome then { s with exitCode := code } else s
  if s.state = .running then Session.enter { s with writer := none } .terminated else s

/-- Releases the sink, the buffered output and the process handles; the
    process itself keeps running. -/
def release (s : Session) : Session :=
  { s with sink := none, buffer := s.buffer.clear, writer := none, control := none }.enter .disposed

/-- The diagnostic text of a session; its identifier is not shown. -/
def describe (s : Session) : String :=
  "ConsoleSession \x7b id: SessionId(_), display_name: " ++ Text.quote s.name ++ ", state: " ++
    s.state.name ++ " \x7d"

/-- The notice written when the process ends. -/
def exitNotice : Option Int → String
  | some code => "\nProcess finished with exit code " ++ Decimal.renderInt code ++ "\n"
  | none => "\nProcess finished\n"

end Session

end ReplHost
