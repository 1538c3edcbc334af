import ReplHost.Host.Activation
import ReplHost.Terminal.Process

/-! # Scenarios

  A scenario drives one host through a list of steps and observes it after
  each. Sessions are named by labels: a session the scenario creates takes
  the label the step gives, and a session the controller's factory makes
  is labelled `f0`, `f1`, … in the order they are made. Processes are
  numbered in launch order. Sinks held by the scenario are named too.

  After a step the readers deliver everything the processes wrote (unless
  the step asks not to wait), and a `Snapshot` records what the host looks
  like. A step that cannot be carried out as written (an unknown label or
  process, an entry that is not there, a controller operation once the
  controller is gone) makes the whole scenario invalid.
-/

namespace ReplHost

/-- One step of a scenario. -/
inductive Step where
  /-- Creates a session with a label and a display name. -/
  | create (label name : String) (spec : LaunchSpec) (options : OutputOptions)
  /-- Starts a session, with a hook that acts during the launch. -/
  | start (s : String) (during : Option DuringAction)
  | execute (s line : String)
  | terminate (s : String)
  | dispose (s : String)
  /-- Routes a session's output to a sink the scenario holds, made on first use. -/
  | attach (s sink : String)
  | detach (s : String)
  /-- Lets go of a sink; says whether the scenario held it. -/
  | dropSink (sink : String)
  | info (s : String)
  /-- Makes an in-memory process write output. -/
  | send (p : Nat) (data : List UInt8)
  /-- Makes an in-memory process exit. -/
  | exit (p : Nat) (code : Int)
  /-- Kills an in-memory process. -/
  | kill (p : Nat)
  /-- Everything written to an in-memory process. -/
  | input (p : Nat)
  | setFailing (on : Bool)
  /-- The factory fails loudly the next time. -/
  | panicNext
  | regInstall (s : String) (reg : RegistryChoice)
  | regFind (name : String) (reg : RegistryChoice)
  | regRemove (name : String) (reg : RegistryChoice)
  | regAll (reg : RegistryChoice)
  | regCount (reg : RegistryChoice)
  | regRemoveMatching (states : List SessionState) (reg : RegistryChoice)
  | bind (s : String)
  | showSession (s : String)
  | launchNew
  | selected
  | allSessions
  | nextTitle
  | setVisible (on : Bool)
  | setAutoHide (on : Bool)
  | addEntry (name : String)
  | removeEntry (name : String)
  | setSelected (name : String)
  | entryBind (name s : String)
  | entryDispose (name : String)
  | installContainer
  | dropController
  | watch (s : String)
  | describe (s : String)
  | describeEntry (name : String)
  | surfaceText (name : String)

/-- A step, and whether to wait for the readers after it. -/
structure Action where
  step : Step
  wait : Bool := true

/-- What `info` tells of a session. -/
structure SessionInfo where
  name : String
  state : SessionState
  exitCode : Option Int
  executing : Bool
  hasPid : Bool
  commandLine : String
  deriving DecidableEq, Repr

/-- The result of a step. -/
inductive Outcome where
  | unit
  | flag (b : Bool)
  | count (n : Nat)
  | text (s : String)
  | optText (s : Option String)
  | texts (ss : List String)
  | table (rows : List (String × String))
  | info (i : SessionInfo)
  deriving DecidableEq, Repr

/-- How a process is shown: an in-memory one by its exit code, a program in
    a pseudo-terminal by its kind alone. -/
inductive ProcessView where
  | memory (exit : Option Int)
  | terminal
  deriving DecidableEq, Repr

/-- How far the controller is: not bound yet, bound, or dropped. -/
inductive ControllerPhase where
  | uninitialized
  | bound
  | dropped
  deriving DecidableEq, Repr

/-- The name a controller phase is shown by. -/
def ControllerPhase.name : ControllerPhase → String
  | uninitialized => "Uninitialized"
  | bound => "Bound"
  | dropped => "Dropped"

/-- What the host looks like after a step. -/
structure Snapshot where
  /-- Label, state, exit code and whether executing, per session in creation order. -/
  sessions : List (String × SessionState × Option Int × Bool)
  /-- Name and session label per entry, in container order. -/
  entries : List (String × Option String)
  selected : Option String
  visible : Bool
  autoHide : Bool
  subscriptions : Nat
  controller : ControllerPhase
  /-- The own registry: names and labels, by name. -/
  registry : List (String × String)
  /-- The controller's registry: names and labels, by name. -/
  controllerRegistry : List (String × String)
  /-- The latest surface of every name that has been an entry. -/
  surfaces : List (String × List Chunk)
  /-- The sinks the scenario holds. -/
  sinks : List (String × List Chunk)
  launches : Nat
  kills : Nat
  processes : List ProcessView
  deriving Repr

/-- The answer to one step. -/
structure Answer where
  result : Except Failure Outcome
  during : Option DuringResult
  snap : Snapshot

/-- How a scenario sets up its host. -/
structure Setup where
  settings : ActivationSettings := {}
  output : OutputOptions := {}
  spec : LaunchSpec := LaunchSpec.ofProgram "evcxr"
  bridged : Bool := true
  greeting : List UInt8 := Utf8.encode defaultGreeting
  repl : ReplMode := .sum
  launcher : LauncherKind := .memory

/-- Joins neighbouring pieces of output of the same kind. -/
def Chunk.coalesce : List Chunk → List Chunk
  | a :: b :: rest =>
    if a.kind = b.kind then Chunk.coalesce (⟨a.text ++ b.text, a.kind⟩ :: rest)
    else a :: Chunk.coalesce (b :: rest)
  | cs => cs
termination_by cs => cs.length

/-- A scenario in progress. -/
structure Scenario where
  host : Host TerminalProcess
  /-- The label of each session, by reference. -/
  labels : Array String := #[]
  /-- Sessions the factory has made. -/
  factoryMade : Nat := 0
  /-- Names whose latest surface the snapshot shows. -/
  tracked : List String := []

namespace Scenario

/-- The scenario before its first step. -/
def begin (setup : Setup) : Scenario :=
  { host := {
      bridged := setup.bridged,
      controller := some { settings := setup.settings },
      launcher := { kind := setup.launcher, greeting := setup.greeting, repl := setup.repl,
                    pty := TerminalProcess.pty FileSystem.standard },
      factory := { spec := setup.spec, options := setup.output } } }

/-- Whether output pieces are joined: a pseudo-terminal splits output at
    arbitrary points. -/
def joinsChunks (sc : Scenario) : Bool := sc.host.launcher.kind = .terminal

/-- The label of a session. -/
def labelOf (sc : Scenario) (s : Nat) : String := (sc.labels[s]?).getD "?"

/-- The session a label names. -/
def sessionOf (sc : Scenario) (label : String) : Except String Nat :=
  match (sc.labels.toList.zipIdx.filter (·.1 = label)).getLast? with
  | some (_, i) => .ok i
  | none => .error ("unknown session " ++ label)

/-- Labels the sessions the factory made since the last step. -/
def labelNew (sc : Scenario) : Scenario :=
  let fresh := sc.host.sessions.size - sc.labels.size
  let names := (List.range fresh).map fun i => "f" ++ Decimal.render (sc.factoryMade + i)
  { sc with labels := sc.labels ++ names.toArray, factoryMade := sc.factoryMade + fresh }

/-- The in-memory process a number names. -/
def memoryOf (sc : Scenario) (p : Nat) : Except String MemoryProcess :=
  match sc.host.child? p with
  | some (.memory m) => .ok m
  | some (.terminal _) => .error "not an in-memory process"
  | none => .error "no such process"

/-- The registry a step names; the controller's only while there is one. -/
def registryOf (sc : Scenario) (which : RegistryChoice) : Except String Registry :=
  match sc.host.registryOf which with
  | some g => .ok g
  | none => .error "controller dropped"

/-- Fails once the controller is gone. -/
def needController (sc : Scenario) : Except String Unit :=
  if sc.host.controller.isSome then .ok () else .error "controller dropped"

/-- The first entry of a name. -/
def entryOf (sc : Scenario) (name : String) : Except String Entry :=
  match sc.host.container.find? name with
  | some e => .ok e
  | none => .error ("no entry " ++ name)

/-- A registry's contents as names and labels, by name. -/
def tableOf (sc : Scenario) (g : Registry) : List (String × String) :=
  g.sorted.map fun (n, s) => (n, sc.labelOf s)

/-- A host error or success as a step result. -/
def unitResult (r : Except HostError Unit) : Except Failure Outcome :=
  match r with
  | .ok () => .ok .unit
  | .error e => .error (.error e)

/-- What `info` tells of a session. -/
def infoOf (x : Session) : SessionInfo :=
  { name := x.name, state := x.state, exitCode := x.exitCode, executing := x.executing,
    hasPid := x.hasPid, commandLine := x.spec.commandLine }

/-- Carries out one step: the scenario afterwards, the result, and what a
    hook saw. -/
def perform (sc : Scenario) : Step → Except String (Scenario × Except Failure Outcome × Option DuringResult)
  | .create label name spec options =>
    let (h, _) := sc.host.addSession (Session.create name spec options)
    .ok ({ sc with host := h, labels := sc.labels.push label }, .ok .unit, none)
  | .start s during => do
    let i ← sc.sessionOf s
    let (h, seen, r) := sc.host.start i (Host.duringHook i during)
    .ok ({ sc with host := h }, unitResult r, seen.join)
  | .execute s line => do
    let i ← sc.sessionOf s
    let (h, r) := sc.host.execute i line
    .ok ({ sc with host := h }, unitResult r, none)
  | .terminate s => do
    let i ← sc.sessionOf s
    let (h, r) := sc.host.terminate i
    .ok ({ sc with host := h }, unitResult r, none)
  | .dispose s => do
    let i ← sc.sessionOf s
    .ok ({ sc with host := sc.host.dispose i }, .ok .unit, none)
  | .attach s sink => do
    let i ← sc.sessionOf s
    let (h, k) := match sc.host.held.lookup sink with
      | some k => (sc.host, k)
      | none =>
        let (h, k) := sc.host.addSink
        ({ h with held := h.held ++ [(sink, k)] }, k)
    .ok ({ sc with host := h.attach i k }, .ok .unit, none)
  | .detach s => do
    let i ← sc.sessionOf s
    .ok ({ sc with host := sc.host.detach i }, .ok .unit, none)
  | .dropSink sink =>
    let existed := (sc.host.held.lookup sink).isSome
    .ok ({ sc with host := { sc.host with held := sc.host.held.filter (·.1 ≠ sink) } },
      .ok (.flag existed), none)
  | .info s => do
    let i ← sc.sessionOf s
    match sc.host.session? i with
    | some x => .ok (sc, .ok (.info (infoOf x)), none)
    | none => .error "unknown session"
  | .send p data => do
    let _ ← sc.memoryOf p
    .ok ({ sc with host := sc.host.modifyMemory p (·.send data) }, .ok .unit, none)
  | .exit p code => do
    let _ ← sc.memoryOf p
    .ok ({ sc with host := sc.host.modifyMemory p (·.exit code) }, .ok .unit, none)
  | .kill p => do
    let _ ← sc.memoryOf p
    .ok ({ sc with host := sc.host.killChild p }, .ok (.flag true), none)
  | .input p => do
    let m ← sc.memoryOf p
    .ok (sc, .ok (.text (Utf8.decodeLossyString m.input)), none)
  | .setFailing on =>
    .ok ({ sc with host := { sc.host with launcher := { sc.host.launcher with failing := on } } },
      .ok .unit, none)
  | .panicNext =>
    .ok ({ sc with host := { sc.host with factory := { sc.host.factory with panicNext := true } } },
      .ok .unit, none)
  | .regInstall s reg => do
    let i ← sc.sessionOf s
    let _ ← sc.registryOf reg
    .ok ({ sc with host := sc.host.install reg i }, .ok .unit, none)
  | .regFind name reg => do
    let g ← sc.registryOf reg
    .ok (sc, .ok (.optText ((g.find? name).map sc.labelOf)), none)
  | .regRemove name reg => do
    let _ ← sc.registryOf reg
    let (h, gone) := sc.host.removeFrom reg name
    .ok ({ sc with host := h }, .ok (.optText (gone.map sc.labelOf)), none)
  | .regAll reg => do
    let g ← sc.registryOf reg
    .ok (sc, .ok (.table (sc.tableOf g)), none)
  | .regCount reg => do
    let g ← sc.registryOf reg
    .ok (sc, .ok (.count g.count), none)
  | .regRemoveMatching states reg => do
    let _ ← sc.registryOf reg
    let (h, n) := sc.host.removeMatching reg fun r => states.contains (sc.host.stateOf r)
    .ok ({ sc with host := h }, .ok (.count n), none)
  | .bind s => do
    let i ← sc.sessionOf s
    sc.needController
    let (h, name) := Host.bind Host.respawn sc.host i
    .ok ({ sc with host := h }, .ok (.text name), none)
  | .showSession s => do
    let i ← sc.sessionOf s
    sc.needController
    match sc.host.showSession i with
    | (h, .ok name) => .ok ({ sc with host := h }, .ok (.text name), none)
    | (h, .error e) => .ok ({ sc with host := h }, .error (.error e), none)
  | .launchNew => do
    sc.needController
    match sc.host.launchNew with
    | (h, .ok s) =>
      let sc := labelNew { sc with host := h }
      .ok (sc, .ok (.text (sc.labelOf s)), none)
    | (h, .error f) => .ok ({ sc with host := h }, .error f, none)
  | .selected => do
    sc.needController
    .ok (sc, .ok (.optText (sc.host.selectedSession.map sc.labelOf)), none)
  | .allSessions => do
    sc.needController
    .ok (sc, .ok (.texts (sc.host.allSessions.map sc.labelOf)), none)
  | .nextTitle => do
    sc.needController
    .ok (sc, .ok (.optText sc.host.nextTitle?), none)
  | .setVisible on =>
    .ok ({ sc with host := Host.setVisible Host.respawn sc.host on }, .ok .unit, none)
  | .setAutoHide on =>
    .ok ({ sc with host := { sc.host with container := { sc.host.container with autoHide := on } } },
      .ok .unit, none)
  | .addEntry name =>
    let (h, _) := Host.addEntry Host.respawn sc.host name none
    .ok ({ sc with host := h, tracked := sc.tracked ++ [name] }, .ok .unit, none)
  | .removeEntry name =>
    let (h, found) := Host.removeEntry Host.respawn sc.host name
    .ok ({ sc with host := h }, .ok (.flag found.isSome), none)
  | .setSelected name => do
    let _ ← sc.entryOf name
    .ok ({ sc with host := { sc.host with container := { sc.host.container with selected := some name } } },
      .ok .unit, none)
  | .entryBind name s => do
    let i ← sc.sessionOf s
    match sc.host.entryBind name i with
    | some (h, previous) => .ok ({ sc with host := h }, .ok (.optText (previous.map sc.labelOf)), none)
    | none => .error ("no entry " ++ name)
  | .entryDispose name => do
    let e ← sc.entryOf name
    .ok ({ sc with host := sc.host.disposeEntry e.surface }, .ok .unit, none)
  | .installContainer => .ok ({ sc with host := { sc.host with bridged := true } }, .ok .unit, none)
  | .dropController =>
    .ok ({ sc with host := { sc.host with controller := none } },
      .ok (.flag sc.host.controller.isSome), none)
  | .watch s => do
    let i ← sc.sessionOf s
    .ok (sc, .ok (.text (sc.host.watched i).name), none)
  | .describe s => do
    let i ← sc.sessionOf s
    match sc.host.session? i with
    | some x => .ok (sc, .ok (.text x.describe), none)
    | none => .error "unknown session"
  | .describeEntry name => do
    let e ← sc.entryOf name
    .ok (sc, .ok (.text (e.describe Text.quote)), none)
  | .surfaceText name =>
    .ok (sc, .ok (.optText ((sc.host.surfaceFor? name).map fun k =>
      String.join ((sc.host.sinkChunks k).map (·.text)))), none)

/-- How the host looks now. -/
def snapshot (sc : Scenario) : Snapshot :=
  let h := sc.host
  let shown := fun (cs : List Chunk) => if sc.joinsChunks then Chunk.coalesce cs else cs
  { sessions := h.sessions.toList.zipIdx.map fun (x, i) =>
      (sc.labelOf i, x.state, x.exitCode, x.executing)
    entries := h.container.entries.map fun e => (e.name, e.session.map sc.labelOf)
    selected := h.container.selected
    visible := h.container.visible
    autoHide := h.container.autoHide
    subscriptions := h.container.subscriptions
    controller := match h.controller with
      | some c => if c.bound then .bound else .uninitialized
      | none => .dropped
    registry := sc.tableOf h.registry
    controllerRegistry := sc.tableOf h.controllerRegistry
    surfaces := sc.tracked.filterMap fun n => (h.surfaceFor? n).map fun k => (n, shown (h.sinkChunks k))
    sinks := h.held.map fun (n, k) => (n, shown (h.sinkChunks k))
    launches := h.launcher.launches
    kills := h.launcher.kills
    processes := h.children.toList.map fun
      | .memory p => .memory p.exitCode
      | .terminal _ => .terminal }

/-- Adds the names of the current entries to those the snapshot shows. -/
def track (sc : Scenario) : Scenario :=
  let names := sc.host.container.entries.map (·.name)
  { sc with tracked := names.foldl (fun acc n => if acc.contains n then acc else acc ++ [n]) sc.tracked }

/-- Carries out one action and observes the host. -/
def act (sc : Scenario) (a : Action) : Except String (Scenario × Answer) := do
  let (sc, result, during) ← sc.perform a.step
  let sc := labelNew sc
  let sc := if a.wait then { sc with host := sc.host.settle } else sc
  let sc := track sc
  .ok (sc, { result := result, during := during, snap := sc.snapshot })

/-- Runs a scenario: the answer to every step, or why a step is invalid. -/
def run (setup : Setup) (actions : List Action) : Except String (List Answer) :=
  let rec go (sc : Scenario) : List Action → Except String (List Answer)
    | [] => .ok []
    | a :: rest => do
      let (sc, answer) ← sc.act a
      let answers ← go sc rest
      .ok (answer :: answers)
  go (begin setup) actions

end Scenario

end ReplHost
