import ReplHost.Proofs.Session.Operations

/-! # One session used from many threads

  A console session is shared: any thread may start, stop, dispose, feed,
  attach or detach it, and once it runs, a reader of its process's output
  delivers text to it. Each of these calls holds the session's lock for its
  whole body and so acts as one atomic step on the host, with one
  exception: a start takes the lock twice and runs the launcher in between,
  so any other call may happen while a launch is in flight.

  `Console` is the state of that concurrent system for one session `s`:

  - the host;
  - the starts that got past their first part and have not finished
    (`flights`), each either still launching or with the launcher's answer;
  - two records of history kept for the statements about output:
    what the session emitted, each chunk with whether it went to the
    buffer, and what sinks received from it, in the order of time.

  `Console.Step` is one call: a part of a start, another call on the
  session, a step of its reader, or a change of the world around the
  session (`Host.Around`): other sessions, processes, the launcher and
  whoever holds sinks may change in any way, except that no sink that was
  let go of is held again. A reader step may come only once a start has
  set up a reader; it may deliver any text and report any exit code, so
  every order of reads and exit polls is among the runs.
-/

namespace ReplHost

variable {T : Type}

/-- How far a start that got past its first part has come. -/
inductive Flight where
  /-- The launcher is running for it, with this spec. -/
  | launching (spec : LaunchSpec)
  /-- The launcher returned a process, or refused. -/
  | launched (r : Except HostError Nat)

/-- One step of the system around a session. -/
inductive Call (T : Type) where
  /-- The first part of a start. -/
  | begin
  /-- The launcher call of the `i`-th start in flight. -/
  | launch (i : Nat)
  /-- The last part of the `i`-th start in flight. -/
  | finish (i : Nat)
  | terminate
  | dispose
  | execute (line : String)
  /-- Routing the output to sink `k`, which the caller holds. -/
  | attach (k : Nat)
  | detach
  /-- The reader hands decoded text to the session. -/
  | deliver (text : String)
  /-- The reader found the end of the output and this exit code. -/
  | close (code : Option Int)
  /-- Anything else in the host happens, leaving it as `h`. -/
  | world (h : Host T)

/-- Whether a step is the end of a start that adopted its process. -/
def Call.adopts : Call T × Except HostError Unit → Bool
  | (.finish _, .ok ()) => true
  | _ => false

/-- The concurrent system around one session. -/
structure Console (T : Type) where
  /-- The host. -/
  host : Host T
  /-- The starts between their two parts, oldest first. -/
  flights : List Flight := []
  /-- Every chunk the session emitted, with whether it went to the buffer. -/
  emitted : List (Chunk × Bool) := []
  /-- Every piece a sink received from the session, with the sink. -/
  received : List (Nat × Chunk) := []

namespace Host

/-- The chunks session `s` emits in a step, each with whether it goes to the
    buffer: a piece of cleaned process output that is not empty, or the
    notice of the exit. -/
def emission (h : Host T) (s : Nat) : Call T → List (Chunk × Bool)
  | .deliver text =>
    match h.session? s with
    | some x =>
      if x.state = .disposed then []
      else
        let out := (x.prompt.process text).2
        if out.isEmpty then [] else [(⟨out, .stdout⟩, (h.liveSink x).isNone)]
    | none => []
  | .close code =>
    match h.session? s with
    | some x =>
      if x.state = .disposed || !x.options.reportExit then []
      else [(⟨Session.exitNotice (x.outputEnded code).exitCode, .system⟩, (h.liveSink x).isNone)]
    | none => []
  | _ => []

/-- What sinks received between two hosts: for each sink, in order, the
    pieces it holds beyond those it held before. -/
def written (h h' : Host T) : List (Nat × Chunk) :=
  (List.range h'.sinks.size).flatMap fun k =>
    ((h'.sinkChunks k).drop (h.sinkChunks k).length).map (k, ·)

/-- A change of the host in which session `s` takes no part: `s` and whether
    it has a reader stay as they are, sinks are only added, and no sink that
    had been let go of is held again. -/
structure Around (s : Nat) (h h' : Host T) : Prop where
  session : h'.session? s = h.session? s
  pump : h'.hasPump s = h.hasPump s
  sinks : h.sinks.size ≤ h'.sinks.size
  held : ∀ k, k < h.sinks.size → h'.sinkAlive k = true → h.sinkAlive k = true

end Host

namespace Console

/-- The system after a call of session `s` that left the host as `h` and the
    starts in flight as `flights`: what it emitted and what sinks received
    are added to the history. -/
def after (σ : Console T) (s : Nat) (c : Call T) (h : Host T) (flights : List Flight) : Console T :=
  { host := h, flights := flights,
    emitted := σ.emitted ++ σ.host.emission s c,
    received := σ.received ++ σ.host.written h }

/-- One step of the system around session `s`: call `c` returns `r`. -/
inductive Step (s : Nat) : Console T → Call T → Except HostError Unit → Console T → Prop where
  /-- A start claims the launch. -/
  | begin {σ : Console T} {h : Host T} {spec : LaunchSpec} :
      σ.host.startBegin s = .ok (h, spec) →
      Step s σ .begin (.ok ()) (σ.after s .begin h (σ.flights ++ [.launching spec]))
  /-- A start is refused in its first part and returns. -/
  | refuse {σ : Console T} {e : HostError} :
      σ.host.startBegin s = .error e → Step s σ .begin (.error e) σ
  | launch {σ : Console T} {i : Nat} {spec : LaunchSpec} :
      σ.flights[i]? = some (.launching spec) →
      Step s σ (.launch i) (.ok ())
        (σ.after s (.launch i) (σ.host.launch spec).1
          (σ.flights.set i (.launched (σ.host.launch spec).2)))
  | finish {σ : Console T} {i : Nat} {r : Except HostError Nat} :
      σ.flights[i]? = some (.launched r) →
      Step s σ (.finish i) (σ.host.startFinish s r).2
        (σ.after s (.finish i) (σ.host.startFinish s r).1 (σ.flights.eraseIdx i))
  | terminate {σ : Console T} :
      Step s σ .terminate (σ.host.terminate s).2
        (σ.after s .terminate (σ.host.terminate s).1 σ.flights)
  | dispose {σ : Console T} :
      Step s σ .dispose (.ok ()) (σ.after s .dispose (σ.host.dispose s) σ.flights)
  | execute {σ : Console T} {line : String} :
      Step s σ (.execute line) (σ.host.execute s line).2
        (σ.after s (.execute line) (σ.host.execute s line).1 σ.flights)
  /-- The caller holds the sink it attaches. -/
  | attach {σ : Console T} {k : Nat} :
      k < σ.host.sinks.size → σ.host.sinkAlive k = true →
      Step s σ (.attach k) (.ok ()) (σ.after s (.attach k) (σ.host.attach s k) σ.flights)
  | detach {σ : Console T} :
      Step s σ .detach (.ok ()) (σ.after s .detach (σ.host.detach s) σ.flights)
  /-- A disposed session takes no text; its reader stops. -/
  | deliver {σ : Console T} {text : String} :
      σ.host.hasPump s = true →
      Step s σ (.deliver text) (.ok ())
        (σ.after s (.deliver text) ((σ.host.deliver s text).getD σ.host) σ.flights)
  | close {σ : Console T} {code : Option Int} :
      σ.host.hasPump s = true →
      Step s σ (.close code) (.ok ()) (σ.after s (.close code) (σ.host.outputClosed s code) σ.flights)
  | world {σ : Console T} {h : Host T} :
      σ.host.Around s h → Step s σ (.world h) (.ok ()) { σ with host := h }

/-- A session just created: nothing in flight, no reader, no history. -/
def Fresh (s : Nat) (σ : Console T) : Prop :=
  (∃ name spec options, σ.host.session? s = some (Session.create name spec options)) ∧
    σ.flights = [] ∧ σ.host.hasPump s = false ∧ σ.emitted = [] ∧ σ.received = []

/-- A session just created in an empty host is fresh. -/
theorem fresh_create (name : String) (spec : LaunchSpec) (options : OutputOptions) :
    Fresh 0 ({ host := { sessions := #[Session.create name spec options] } } : Console T) :=
  ⟨⟨name, spec, options, rfl⟩, rfl, rfl, rfl, rfl⟩

/-- The states the system reaches from a fresh session. -/
inductive Reachable (s : Nat) : Console T → Prop where
  | init {σ : Console T} : Fresh s σ → Reachable s σ
  | step {σ σ' : Console T} {c : Call T} {r : Except HostError Unit} :
      Reachable s σ → Step s σ c r σ' → Reachable s σ'

/-- A run: the steps taken, each call with what it returned. -/
inductive Run (s : Nat) : Console T → List (Call T × Except HostError Unit) → Console T → Prop where
  | nil (σ : Console T) : Run s σ [] σ
  | cons {σ σ' σ'' : Console T} {c : Call T} {r : Except HostError Unit}
      {t : List (Call T × Except HostError Unit)} :
      Step s σ c r σ' → Run s σ' t σ'' → Run s σ ((c, r) :: t) σ''

theorem Reachable.run {s : Nat} {σ σ' : Console T} {t : List (Call T × Except HostError Unit)}
    (hσ : Reachable s σ) (hrun : Run s σ t σ') : Reachable s σ' := by
  induction hrun with
  | nil => exact hσ
  | cons hstep _ ih => exact ih (hσ.step hstep)

/-- A run followed by one more step. -/
theorem Run.snoc {s : Nat} {σ σ' σ'' : Console T} {t : List (Call T × Except HostError Unit)} {c : Call T}
    {r : Except HostError Unit} (hrun : Run s σ t σ') (hstep : Step s σ' c r σ'') :
    Run s σ (t ++ [(c, r)]) σ'' := by
  induction hrun with
  | nil => exact .cons hstep (.nil _)
  | cons hfirst _ ih => exact .cons hfirst (ih hstep)

end Console

end ReplHost
