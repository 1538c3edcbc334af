import ReplHost.Host.State

/-! # Session lifecycle in the host

  The operations on one session and its process:

  - `start` launches the process. The launch happens outside the session,
    so a hook may act on the session meanwhile: if it disposed the session,
    the new process is killed and the start fails. Otherwise the session
    runs, writes its input to the process, and a reader is set up for the
    process's output.
  - `execute` writes one line of input, followed by a line feed;
    `executeVia` does the same through a writer that may fail.
  - `terminate` kills the process of a running session; it is a no-op on a
    session that already stopped.
  - `dispose` releases the sink, the buffered output and the process
    handles; it never stops the process by itself.
  - `attach` first flushes the buffered output into the new sink.
  - `duringHook` is what a hook may do while a session's process launches:
    dispose the session, start it again, stop it, write to it, or read its
    state.

  The readers run apart from these operations. `settle` lets every reader
  deliver what its process has written: each read is decoded, cleaned of
  echo and prompt, and handed to the sink or buffer; at the end of the
  stream the session records the exit code, stops running, and may report
  the exit. A disposed session takes no output: its reader stops.
-/

namespace ReplHost

variable {T : Type}

/-- Makes an in-memory process act on one reply of its program. -/
def MemoryProcess.perform (p : MemoryProcess) : Reply → MemoryProcess
  | .output text => p.send (Utf8.encode text)
  | .exit code => p.exit code

namespace Host

/-- Environment variables of a launch: the inherited ones, overridden by the
    spec's, ordered by name. -/
def launchEnvironment (base extra : List (String × String)) : List (String × String) :=
  let merged := base.filter (fun kv => !extra.any (·.1 = kv.1)) ++ extra
  merged.mergeSort (fun a b => decide (a.1 ≤ b.1))

/-- Launches a process for a spec. Every attempt is counted; while the
    launcher is failing, every attempt is refused. -/
def launch (h : Host T) (spec : LaunchSpec) : Host T × Except HostError Nat :=
  let h := { h with launcher := { h.launcher with launches := h.launcher.launches + 1 } }
  if h.launcher.failing then (h, .error (.sessionStart (spec.program ++ ": launch refused")))
  else
    match h.launcher.kind with
    | .memory =>
      let p : MemoryProcess :=
        if h.launcher.greeting.isEmpty then {} else ({} : MemoryProcess).send h.launcher.greeting
      ({ h with children := h.children.push (.memory p) }, .ok h.children.size)
    | .terminal =>
      match h.launcher.pty.spawn (launchEnvironment h.launcher.env spec.env) spec with
      | .ok t => ({ h with children := h.children.push (.terminal t) }, .ok h.children.size)
      | .error text => (h, .error (.sessionStart (spec.program ++ ": " ++ text)))

/-- The first part of a start, under the session's lock: a created session
    that is not starting yet is marked as starting, and the spec to launch
    with is handed back; any other session refuses. -/
def startBegin (h : Host T) (s : Nat) : Except HostError (Host T × LaunchSpec) :=
  match h.session? s with
  | none => .error .sessionDisposed
  | some x =>
    match x.state with
    | .created =>
      if x.starting then .error .alreadyStarting
      else .ok (h.modifySession s fun x => { x with starting := true }, x.spec)
    | .disposed => .error .sessionDisposed
    | st => .error (.invalidTransition st .running)

/-- Makes a session run a launched process: the session enters `running`,
    writes its input to the process and controls it, and a reader is set
    up for the process's output. -/
def adopt (h : Host T) (s c : Nat) (strip : Bool) : Host T :=
  let terminal := match h.child? c with
    | some (.terminal _) => true
    | _ => false
  let h := h.modifySession s fun x =>
    { x.enter .running with writer := some c, control := some c, hasPid := terminal }
  { h with pumps := h.pumps ++ [{ session := s, process := c, decoder := OutputDecoder.fresh strip }] }

/-- The last part of a start, under the session's lock again once the launch
    returned. A failed launch is reported. A process launched for a session
    that was disposed meanwhile is killed. Otherwise the session adopts the
    process. -/
def startFinish (h : Host T) (s : Nat) (launched : Except HostError Nat) :
    Host T × Except HostError Unit :=
  let h := h.modifySession s fun x => { x with starting := false }
  match launched with
  | .error e => (h, .error e)
  | .ok c =>
    match h.session? s with
    | none => (h.killChild c, .error .sessionDisposed)
    | some x =>
      if x.state = .disposed then (h.killChild c, .error .sessionDisposed)
      else if x.state.allows .running then (h.adopt s c x.options.stripAnsi, .ok ())
      else (h, .error (.invalidTransition x.state .running))

/-- Starts a session's process. The launch happens between the two parts,
    outside the session's lock; `hook` runs once the process exists and
    before the launch returns, and its result is returned when it ran. -/
def start {β : Type} (h : Host T) (s : Nat) (hook : Host T → Host T × β) :
    Host T × Option β × Except HostError Unit :=
  match h.startBegin s with
  | .error e => (h, none, .error e)
  | .ok (h, spec) =>
    match h.launch spec with
    | (h, .error e) =>
      let (h, r) := h.startFinish s (.error e)
      (h, none, r)
    | (h, .ok c) =>
      let (h, b) := hook h
      let (h, r) := h.startFinish s (.ok c)
      (h, some b, r)

/-- Writes input to a process. An in-memory process answers each complete
    line through its program as the line arrives. -/
def writeChild (h : Host T) (c : Nat) (bytes : List UInt8) : Host T :=
  match h.child? c with
  | some (.memory p) =>
    let (p, lines) := p.write bytes
    let p := lines.foldl (fun p line => (h.launcher.repl.answer line).foldl MemoryProcess.perform p) p
    h.modifyChild c fun _ => .memory p
  | some (.terminal t) => h.modifyChild c fun _ => .terminal (h.launcher.pty.write t bytes)
  | none => h

/-- A write of a whole buffer that fails: the error it reports, and how many
    of the buffer's bytes went out before it failed. -/
structure WriteFailure where
  /-- The bytes written before the failure. -/
  written : Nat
  /-- The error reported. -/
  error : IoError
  deriving DecidableEq, Repr

/-- Where the writer to a process's input fails, for each of the three
    steps of submitting a line. Writing the line may fail after a prefix of
    it went out; the line feed is a single byte, so a failure writing it
    writes nothing. The in-memory writer never fails. -/
structure WriteFaults where
  /-- Writing the line's bytes. -/
  line : Option WriteFailure := none
  /-- Writing the line feed. -/
  newline : Option IoError := none
  /-- Flushing. -/
  flush : Option IoError := none
  deriving DecidableEq, Repr

/-- Submits one line of input to a running session, through a writer that
    fails as `faults` says. The prompt is marked first; then the line, the
    line feed and the flush are three steps, and the first that fails ends
    the call with its error, after the bytes written before it went to the
    process. -/
def executeVia (h : Host T) (faults : WriteFaults) (s : Nat) (line : String) : Host T × Except HostError Unit :=
  match h.session? s with
  | none => (h, .error .consoleNotEnabled)
  | some x =>
    if x.state ≠ .running then (h, .error .consoleNotEnabled)
    else
      let h := h.modifySession s fun x => { x with prompt := x.prompt.begin }
      match x.writer with
      | none => (h, .error .consoleNotEnabled)
      | some c =>
        match faults.line, faults.newline, faults.flush with
        | some f, _, _ => (h.writeChild c ((Utf8.encode line).take f.written), .error (.io f.error))
        | none, some e, _ => (h.writeChild c (Utf8.encode line), .error (.io e))
        | none, none, some e => (h.writeChild c (Utf8.encode (line ++ "\n")), .error (.io e))
        | none, none, none => (h.writeChild c (Utf8.encode (line ++ "\n")), .ok ())

/-- Submits one line of input to a running session. -/
def execute (h : Host T) (s : Nat) (line : String) : Host T × Except HostError Unit :=
  h.executeVia {} s line

/-- Stops the process of a running session. -/
def terminate (h : Host T) (s : Nat) : Host T × Except HostError Unit :=
  match h.stateOf s with
  | .terminated | .disposed => (h, .ok ())
  | .created => (h, .error (.notRunning .created))
  | .running =>
    let h := match (h.session? s).bind (·.control) with
      | some c => h.killChild c
      | none => h
    (h.modifySession s fun x => Session.enter { x with writer := none } .terminated, .ok ())

/-- Releases a session's sink, buffered output and process handles. -/
def dispose (h : Host T) (s : Nat) : Host T :=
  if h.stateOf s = .disposed then h else h.modifySession s Session.release

/-- Routes a session's output to a sink, after flushing what it buffered. -/
def attach (h : Host T) (s : Nat) (k : Nat) : Host T :=
  match h.session? s with
  | none => h
  | some x =>
    if x.state = .disposed then h
    else
      let (chunks, buffer) := x.buffer.drain
      let h := h.modifySession s fun x => { x with sink := none, buffer := buffer }
      let h := chunks.foldl (fun h c => h.writeSink k c.text c.kind) h
      h.modifySession s fun x => { x with sink := some k }

/-- Stops routing a session's output; it is buffered from now on. -/
def detach (h : Host T) (s : Nat) : Host T := h.modifySession s fun x => { x with sink := none }

/-! ### Readers -/

/-- What a reader finds on a process: the reads of the output written so
    far, and whether the stream ends after them. -/
def takeOutput (h : Host T) (c : Nat) : Host T × List (List UInt8) × Bool :=
  match h.child? c with
  | some (.memory p) =>
    let (reads, ended, p) := p.drain
    (h.modifyChild c fun _ => .memory p, reads, ended)
  | some (.terminal t) =>
    let (bytes, t) := h.launcher.pty.drain t
    let reads := if bytes.isEmpty then [] else MemoryProcess.reads bytes (bytes.length / readSize + 1)
    (h.modifyChild c fun _ => .terminal t, reads, (h.launcher.pty.exitCode t).isSome)
  | none => (h, [], true)

/-- Hands decoded text to a session; `none` once the session is disposed. -/
def deliver (h : Host T) (s : Nat) (text : String) : Option (Host T) :=
  match h.session? s with
  | none => none
  | some x =>
    if x.state = .disposed then none
    else
      let (prompt, out) := x.prompt.process text
      let h := h.modifySession s fun x => { x with prompt := prompt }
      some (if out.isEmpty then h else h.emit s out .stdout)

/-- The end of a session's output: it records the exit code, stops
    running, and reports the exit when asked to. -/
def outputClosed (h : Host T) (s : Nat) (code : Option Int) : Host T :=
  match h.session? s with
  | none => h
  | some x =>
    if x.state = .disposed then h
    else
      let h := h.modifySession s (·.outputEnded code)
      if x.options.reportExit then
        h.emit s (Session.exitNotice ((h.session? s).bind (·.exitCode))) .system
      else h

/-- The exit code a reader finds at the end of the stream: the session's,
    or else its process's. -/
def exitFound (h : Host T) (s : Nat) : Option Int :=
  match h.session? s with
  | some x => x.exitCode.or (x.control.bind h.childExit?)
  | none => none

/-- Hands decoded text to the reader's session unless it is empty; `none`
    once the session is disposed. -/
def deliverNonEmpty (h : Host T) (s : Nat) (text : String) : Option (Host T) :=
  if text.isEmpty then some h else h.deliver s text

/-- Lets one reader deliver everything its process has written. -/
def runPump (h : Host T) (pump : Pump) : Host T × Pump :=
  if pump.stopped then (h, pump)
  else
    let (h, reads, closed) := h.takeOutput pump.process
    let fed := reads.foldl (fun (acc : Option (Host T) × OutputDecoder) bytes =>
      match acc with
      | (some h, dec) =>
        let (dec, text) := dec.feed bytes
        (h.deliverNonEmpty pump.session text, dec)
      | (none, dec) => (none, dec)) (some h, pump.decoder)
    match fed with
    | (none, dec) => (h, { pump with decoder := dec, stopped := true })
    | (some h, dec) =>
      if !closed then (h, { pump with decoder := dec })
      else
        let (dec, rest) := dec.finish
        match h.deliverNonEmpty pump.session rest with
        | none => (h, { pump with decoder := dec, stopped := true })
        | some h =>
          (h.outputClosed pump.session (h.exitFound pump.session),
            { pump with decoder := dec, stopped := true })

/-- Lets every reader deliver everything its process has written, in the
    order the sessions started. -/
def settle (h : Host T) : Host T :=
  let (h, pumps) := h.pumps.foldl (fun (acc : Host T × List Pump) p =>
    let (h, p) := runPump acc.1 p
    (h, acc.2 ++ [p])) (h, [])
  { h with pumps := pumps }

end Host

/-- What a hook does to a session while the session starts. -/
inductive DuringAction where
  | dispose
  | start
  | terminate
  | execute
  | state
  deriving DecidableEq, Repr

/-- What such a hook saw. -/
inductive DuringResult where
  /-- It disposed the session, which then was in this state. -/
  | disposed (after : SessionState)
  /-- Its operation succeeded. -/
  | done
  /-- Its operation failed. -/
  | failed (e : HostError)
  /-- It read the session's state. -/
  | observed (s : SessionState)
  deriving DecidableEq, Repr

namespace Host

/-- What a hook does while a session starts. -/
def duringHook (s : Nat) : Option DuringAction → Host T → Host T × Option DuringResult
  | none => fun h => (h, none)
  | some .dispose => fun h => let h := h.dispose s; (h, some (.disposed (h.stateOf s)))
  | some .start => fun h =>
    match h.start s (fun h => (h, ())) with
    | (h, _, .ok ()) => (h, some .done)
    | (h, _, .error e) => (h, some (.failed e))
  | some .terminate => fun h =>
    match h.terminate s with
    | (h, .ok ()) => (h, some .done)
    | (h, .error e) => (h, some (.failed e))
  | some .execute => fun h =>
    match h.execute s "x" with
    | (h, .ok ()) => (h, some .done)
    | (h, .error e) => (h, some (.failed e))
  | some .state => fun h => (h, some (.observed (h.stateOf s)))

end Host

end ReplHost
