import ReplHost.Session.Console
import ReplHost.Session.Registry
import ReplHost.Session.Pump
import ReplHost.Host.Container
import ReplHost.Activation.Controller
import ReplHost.Process.Memory
import ReplHost.Process.Script
import ReplHost.Process.Pty
import ReplHost.Error

/-! # The state of a console host

  A `Host T` holds everything one console host knows at a time: its
  sessions, the processes it launched (driven in memory, or programs behind
  a pseudo-terminal, in states `T`), the readers moving their output, the
  sinks output can go to, the container with its entries, the activation
  controller (until it is dropped) with its registry, a second registry of
  its own, the launcher with its pseudo-terminal, and the factory of new
  sessions.

  Sessions, processes and sinks are kept in arrays and referred to by
  index, and nothing is ever removed from them: a reference stays valid,
  and what it refers to may only become disposed, exited or unreachable.

  A session refers to its sink weakly: output reaches the sink only while
  someone still holds it. A sink is held while the caller holds it, while
  it is the latest surface the container made for a name, or while an entry
  of the container renders into it.
-/

namespace ReplHost

variable {T : Type}

/-- A process the host launched. -/
inductive Child (T : Type) where
  /-- A process driven in memory. -/
  | memory (p : MemoryProcess)
  /-- A program behind a pseudo-terminal. -/
  | terminal (t : T)

/-- Where launched processes run. -/
inductive LauncherKind where
  /-- In memory, answered by the scripted program. -/
  | memory
  /-- In a pseudo-terminal. -/
  | terminal
  deriving DecidableEq, Repr

/-- The environment a pseudo-terminal program inherits from the host. -/
def hostEnvironment : List (String × String) := [("PATH", "/usr/bin:/bin"), ("HOME", "/")]

/-- What launches processes, and what it has counted. -/
structure Launcher (T : Type) where
  /-- Where processes run. -/
  kind : LauncherKind := .memory
  /-- Every launch is refused while set. -/
  failing : Bool := false
  /-- Launch attempts, refused ones included. -/
  launches : Nat := 0
  /-- Kills of in-memory processes. -/
  kills : Nat := 0
  /-- What an in-memory process writes as it starts. -/
  greeting : List UInt8 := Utf8.encode defaultGreeting
  /-- How an in-memory process answers input lines. -/
  repl : ReplMode := .sum
  /-- The pseudo-terminal programs run behind. -/
  pty : Pty T := Pty.absent
  /-- The environment programs inherit. -/
  env : List (String × String) := hostEnvironment

/-- What new sessions of the controller are made from. -/
structure Factory where
  /-- How their processes start. -/
  spec : LaunchSpec := LaunchSpec.ofProgram "evcxr"
  /-- How they treat output. -/
  options : OutputOptions := {}
  /-- The next session it is asked for fails loudly. -/
  panicNext : Bool := false

/-- Why an operation of the host did not complete: an error it reports, or a
    failure that unwinds through it. -/
inductive Failure where
  /-- An error of the host. -/
  | error (e : HostError)
  /-- An unwinding failure with its text. -/
  | panic (text : String)
  deriving DecidableEq, Repr

/-- The text of the factory's failure. -/
def factoryFailure : String := "factory blew up"

/-- Everything a console host knows. -/
structure Host (T : Type) where
  /-- Sessions, in creation order. -/
  sessions : Array Session := #[]
  /-- Launched processes, in launch order. -/
  children : Array (Child T) := #[]
  /-- Output readers, in the order their sessions started. -/
  pumps : List Pump := []
  /-- Every sink ever made. -/
  sinks : Array Surface := #[]
  /-- Sinks the caller holds, under its names for them. -/
  held : List (String × Nat) := []
  /-- The latest surface the container made for each name. -/
  latest : List (String × Nat) := []
  /-- The container. -/
  container : Container := {}
  /-- Whether the host shell reports the container. -/
  bridged : Bool := true
  /-- The activation controller, until it is dropped. -/
  controller : Option Controller := some {}
  /-- A registry apart from the controller's. -/
  registry : Registry := {}
  /-- The launcher. -/
  launcher : Launcher T := {}
  /-- The session factory. -/
  factory : Factory := {}

namespace Host

/-- The session a reference points to. -/
def session? (h : Host T) (s : Nat) : Option Session := h.sessions[s]?

/-- Changes one session. -/
def modifySession (h : Host T) (s : Nat) (f : Session → Session) : Host T :=
  { h with sessions := h.sessions.modify s f }

/-- Adds a session; returns its reference. -/
def addSession (h : Host T) (x : Session) : Host T × Nat :=
  ({ h with sessions := h.sessions.push x }, h.sessions.size)

/-- The state of a session; a dangling reference reads as disposed. -/
def stateOf (h : Host T) (s : Nat) : SessionState :=
  match h.session? s with
  | some x => x.state
  | none => .disposed

/-- The state a new watcher of a session's lifecycle sees: the one last sent;
    a dangling reference reads as disposed. -/
def watched (h : Host T) (s : Nat) : SessionState :=
  match h.session? s with
  | some x => x.published
  | none => .disposed

/-- Adds a sink; returns its reference. -/
def addSink (h : Host T) : Host T × Nat :=
  ({ h with sinks := h.sinks.push {} }, h.sinks.size)

/-- Whether someone still holds a sink. -/
def sinkAlive (h : Host T) (k : Nat) : Bool :=
  h.held.any (·.2 = k) || h.latest.any (·.2 = k) || h.container.entries.any (·.surface = k)

/-- Writes to a sink. -/
def writeSink (h : Host T) (k : Nat) (text : String) (kind : OutputKind) : Host T :=
  { h with sinks := h.sinks.modify k (·.write text kind) }

/-- The pieces a sink received. -/
def sinkChunks (h : Host T) (k : Nat) : List Chunk := ((h.sinks[k]?).map (·.chunks)).getD []

/-- The sink a session's output reaches now: its sink, while someone still
    holds it. -/
def liveSink (h : Host T) (x : Session) : Option Nat := x.sink.filter h.sinkAlive

/-- Hands output of a session to its sink while that is held, otherwise to
    its buffer. -/
def emit (h : Host T) (s : Nat) (text : String) (kind : OutputKind) : Host T :=
  match h.session? s with
  | none => h
  | some x =>
    match h.liveSink x with
    | some k => h.writeSink k text kind
    | none => h.modifySession s fun x => { x with buffer := x.buffer.push text kind }

/-- The container makes a surface for a name; it stays the latest for it. -/
def createSurface (h : Host T) (name : String) : Host T × Nat :=
  let (h, k) := h.addSink
  ({ h with latest := (name, k) :: h.latest.filter (·.1 ≠ name) }, k)

/-- The latest surface made for a name. -/
def surfaceFor? (h : Host T) (name : String) : Option Nat := h.latest.lookup name

/-- The process a reference points to. -/
def child? (h : Host T) (c : Nat) : Option (Child T) := h.children[c]?

/-- Changes one process. -/
def modifyChild (h : Host T) (c : Nat) (f : Child T → Child T) : Host T :=
  { h with children := h.children.modify c f }

/-- Changes an in-memory process; others stay. -/
def modifyMemory (h : Host T) (c : Nat) (f : MemoryProcess → MemoryProcess) : Host T :=
  h.modifyChild c fun
    | .memory p => .memory (f p)
    | other => other

/-- The exit code of a process, once it ended. -/
def childExit? (h : Host T) (c : Nat) : Option Int :=
  match h.child? c with
  | some (.memory p) => p.exitCode
  | some (.terminal t) => h.launcher.pty.exitCode t
  | none => none

/-- Kills a process. Kills of in-memory processes are counted, also of one
    that has already ended. -/
def killChild (h : Host T) (c : Nat) : Host T :=
  match h.child? c with
  | some (.memory p) =>
    let h := h.modifyChild c fun _ => .memory p.kill
    { h with launcher := { h.launcher with kills := h.launcher.kills + 1 } }
  | some (.terminal t) => h.modifyChild c fun _ => .terminal (h.launcher.pty.kill t)
  | none => h

/-- The controller's registry; empty once the controller is dropped. -/
def controllerRegistry (h : Host T) : Registry := ((h.controller.map (·.registry)).getD {})

end Host

end ReplHost
