import ReplHost.Proofs.Session.System

/-! # The lifecycle of a session under every interleaving

  In every state the system around a session reaches, however the calls of
  any number of threads interleave with its reader, the fields of the
  session fit its lifecycle state (`Session.Fits`):

  - created: no process, so no writer, no control, no identifier and no exit
    code;
  - running: a writer and a control, no exit code yet, no start in progress;
  - terminated: no writer, but still the control;
  - disposed: no sink, no writer, no control, an empty buffer;
  - a start is in progress only while created, or once disposed meanwhile;
  - watchers see the current state.

  Around it, the system keeps at most one start in flight, exactly while
  the session says it is starting; a reader only once a start adopted a
  process; and output never waits in the buffer while the sink is held
  (`Console.Inv`). The invariant is shown to hold initially and to be kept
  by each call, one lemma per call.

  From it follow the guarantees of a start: the launcher never runs twice
  at once for the session, a launched process is either adopted or killed,
  at most one process is ever adopted, and a failed start changes nothing
  but its own flag. Every state change is one the lifecycle table allows.
-/

namespace ReplHost

variable {T : Type}

namespace SessionState

/-- No state moves back to created. -/
@[simp] theorem allows_created (a : SessionState) : a.allows .created = false := by
  cases a <;> rfl

end SessionState

namespace Session

/-- How the fields of a session fit its lifecycle state. -/
structure Fits (x : Session) : Prop where
  /-- A created session has no process yet. -/
  created : x.state = .created →
    x.writer = none ∧ x.control = none ∧ x.hasPid = false ∧ x.exitCode = none
  /-- A running session writes to and controls a process that has not ended,
      and no start is in progress. -/
  running : x.state = .running →
    x.writer.isSome ∧ x.control.isSome ∧ x.exitCode = none ∧ x.starting = false
  /-- A terminated session no longer writes to its process but controls it. -/
  terminated : x.state = .terminated → x.writer = none ∧ x.control.isSome
  /-- A disposed session holds nothing. -/
  disposed : x.state = .disposed →
    x.sink = none ∧ x.writer = none ∧ x.control = none ∧ x.buffer.chunks = []
  /-- A start is in progress only from created, or once disposed meanwhile. -/
  starting : x.starting = true → x.state = .created ∨ x.state = .disposed
  /-- Watchers see the current state. -/
  published : x.published = x.state

variable {x : Session}

theorem fits_create (name : String) (spec : LaunchSpec) (options : OutputOptions) :
    (Session.create name spec options).Fits where
  created := fun _ => ⟨rfl, rfl, rfl, rfl⟩
  running := by simp [create]
  terminated := by simp [create]
  disposed := by simp [create]
  starting := by simp [create]
  published := rfl

/-- The first part of a start marks a created session as starting. -/
theorem Fits.claim (hx : x.Fits) (hc : x.state = .created) : { x with starting := true }.Fits where
  created := hx.created
  running := by simp [hc]
  terminated := hx.terminated
  disposed := hx.disposed
  starting := fun _ => .inl hc
  published := hx.published

/-- The last part of a start clears the flag, whatever else happens. -/
theorem Fits.unclaim (hx : x.Fits) : { x with starting := false }.Fits where
  created := hx.created
  running := fun hr => by
    obtain ⟨hw, hc, he, -⟩ := hx.running hr
    exact ⟨hw, hc, he, rfl⟩
  terminated := hx.terminated
  disposed := hx.disposed
  starting := by simp
  published := hx.published

/-- Adopting a process makes a created session run it. -/
theorem Fits.adopt (hx : x.Fits) (hc : x.state = .created) (c : Nat) (terminal : Bool) :
    { ({ x with starting := false }).enter .running with
      writer := some c, control := some c, hasPid := terminal }.Fits where
  created := by simp [enter]
  running := fun _ => ⟨rfl, rfl, (hx.created hc).2.2.2, rfl⟩
  terminated := by simp [enter]
  disposed := by simp [enter]
  starting := by simp [enter]
  published := rfl

/-- Stopping a running session drops its writer and keeps its control. -/
theorem Fits.stop (hx : x.Fits) (hr : x.state = .running) :
    (Session.enter { x with writer := none } .terminated).Fits where
  created := by simp [enter]
  running := by simp [enter]
  terminated := fun _ => ⟨rfl, (hx.running hr).2.1⟩
  disposed := by simp [enter]
  starting := by simp [enter, (hx.running hr).2.2.2]
  published := rfl

/-- Releasing a session leaves it holding nothing. -/
theorem Fits.release (x : Session) : x.release.Fits where
  created := by simp [Session.release, enter]
  running := by simp [Session.release, enter]
  terminated := by simp [Session.release, enter]
  disposed := fun _ => ⟨rfl, rfl, rfl, rfl⟩
  starting := by simp [Session.release, enter]
  published := rfl

theorem outputEnded_running (hr : x.state = .running) (code : Option Int) :
    x.outputEnded code =
      Session.enter { x with exitCode := code.or x.exitCode, writer := none } .terminated := by
  cases code <;> simp [Session.outputEnded, hr]

theorem outputEnded_not_running (hr : x.state ≠ .running) (code : Option Int) :
    x.outputEnded code = { x with exitCode := code.or x.exitCode } := by
  cases code <;> simp [Session.outputEnded, hr]

/-- The end of the output changes neither whether the session is created,
    nor the starting flag, the sink or the buffer. -/
theorem outputEnded_keeps (x : Session) (code : Option Int) :
    ((x.outputEnded code).state = .created ↔ x.state = .created) ∧
      (x.outputEnded code).starting = x.starting ∧ (x.outputEnded code).sink = x.sink ∧
      (x.outputEnded code).buffer = x.buffer := by
  by_cases hr : x.state = .running
  · rw [outputEnded_running hr]
    simp [enter, hr]
  · rw [outputEnded_not_running hr]
    exact ⟨Iff.rfl, rfl, rfl, rfl⟩

/-- The end of the output never disposes a session. -/
theorem outputEnded_state (x : Session) (code : Option Int) :
    (x.outputEnded code).state = .disposed ↔ x.state = .disposed := by
  by_cases hr : x.state = .running
  · rw [outputEnded_running hr]
    simp [enter, hr]
  · rw [outputEnded_not_running hr]

/-- The end of the output stops a running session and leaves any other in
    its state. -/
theorem outputEnded_moves (x : Session) (code : Option Int) :
    (x.outputEnded code).state = x.state ∨ x.state.allows (x.outputEnded code).state = true := by
  by_cases hr : x.state = .running
  · rw [outputEnded_running hr]
    exact .inr (by simp [enter, hr, SessionState.allows])
  · rw [outputEnded_not_running hr]
    exact .inl rfl

/-- The end of the output keeps the fields fitting, once the session has
    left `created`. -/
theorem Fits.outputEnded (hx : x.Fits) (hc : x.state ≠ .created) (code : Option Int) :
    (x.outputEnded code).Fits := by
  by_cases hr : x.state = .running
  · rw [outputEnded_running hr]
    exact ⟨by simp [enter], by simp [enter], fun _ => ⟨rfl, (hx.running hr).2.1⟩, by simp [enter],
      by simp [enter, (hx.running hr).2.2.2], rfl⟩
  · rw [outputEnded_not_running hr]
    exact ⟨fun h => absurd h hc, fun h => absurd h hr, hx.terminated, hx.disposed, hx.starting,
      hx.published⟩

/-- The echo and prompt tracking is not part of the lifecycle. -/
theorem Fits.withPrompt (hx : x.Fits) (p : PromptTracker) : { x with prompt := p }.Fits where
  created := hx.created
  running := hx.running
  terminated := hx.terminated
  disposed := hx.disposed
  starting := hx.starting
  published := hx.published

/-- Output may be buffered while the session is not disposed. -/
theorem Fits.withBuffer (hx : x.Fits) (hd : x.state ≠ .disposed) (b : OutputBuffer) :
    { x with buffer := b }.Fits where
  created := hx.created
  running := hx.running
  terminated := hx.terminated
  disposed := fun h => absurd h hd
  starting := hx.starting
  published := hx.published

/-- A sink may be attached while the session is not disposed. -/
theorem Fits.withSink (hx : x.Fits) (hd : x.state ≠ .disposed) (k : Option Nat)
    (b : OutputBuffer) : { x with sink := k, buffer := b }.Fits where
  created := hx.created
  running := hx.running
  terminated := hx.terminated
  disposed := fun h => absurd h hd
  starting := hx.starting
  published := hx.published

/-- Detaching is always possible. -/
theorem Fits.detach (hx : x.Fits) : { x with sink := none }.Fits where
  created := hx.created
  running := hx.running
  terminated := hx.terminated
  disposed := fun h => by
    obtain ⟨-, hw, hc, hb⟩ := hx.disposed h
    exact ⟨rfl, hw, hc, hb⟩
  starting := hx.starting
  published := hx.published

end Session

namespace Console

variable {s : Nat} {σ : Console T} {x : Session}

@[simp] theorem after_host (σ : Console T) (s : Nat) (c : Call T) (h : Host T) (fl : List Flight) :
    (σ.after s c h fl).host = h := rfl

@[simp] theorem after_flights (σ : Console T) (s : Nat) (c : Call T) (h : Host T) (fl : List Flight) :
    (σ.after s c h fl).flights = fl := rfl

/-- What holds around session `s` in host `h` with starts `flights` in
    flight, while the session's record is `x`. -/
structure Sound (s : Nat) (h : Host T) (flights : List Flight) (x : Session) : Prop where
  /-- The session's fields fit its state. -/
  fits : x.Fits
  /-- At most one start is between its two parts. -/
  single : flights.length ≤ 1
  /-- A start is in flight exactly while the session says it is starting. -/
  flight : flights ≠ [] ↔ x.starting = true
  /-- A reader exists only once a start adopted a process. -/
  pump : h.hasPump s = true → x.state ≠ .created
  /-- The session's sink is one the host made. -/
  sink : ∀ k, x.sink = some k → k < h.sinks.size
  /-- Output never waits in the buffer while the sink is held. -/
  quiet : (h.liveSink x).isSome → x.buffer.chunks = []

/-- The invariant of the system around session `s`: the session exists and
    all is sound around its record. -/
def Inv (s : Nat) (σ : Console T) : Prop :=
  ∃ x, σ.host.session? s = some x ∧ Sound s σ.host σ.flights x

theorem inv_init (hσ : Fresh s σ) : Inv s σ := by
  obtain ⟨⟨name, spec, options, hx⟩, hfl, hpump, -, -⟩ := hσ
  refine ⟨_, hx, ?_⟩
  exact { fits := Session.fits_create name spec options
          single := by simp [hfl]
          flight := by simp [hfl, Session.create]
          pump := by simp [hpump]
          sink := by simp [Session.create]
          quiet := by simp [Session.create, OutputBuffer.withLimit] }

/-! ### Each call keeps the invariant -/

/-- A step from `σ` to `σ'` keeps all sound around session `s`, and the
    session's state stays or moves as the lifecycle table allows. -/
def Keeps (s : Nat) (σ σ' : Console T) : Prop :=
  ∀ x, σ.host.session? s = some x → Sound s σ.host σ.flights x →
    ∃ x', σ'.host.session? s = some x' ∧ Sound s σ'.host σ'.flights x' ∧
      (x'.state = x.state ∨ x.state.allows x'.state = true)

variable {h : Host T} {fl : List Flight}

/-- A call that leaves the host as it was keeps everything. -/
theorem keeps_same {c : Call T} : Keeps s σ (σ.after s c σ.host σ.flights) :=
  fun x hx hs => ⟨x, hx, hs, .inl rfl⟩

/-- Emitting output keeps all sound and the state as it is: the output goes
    to the held sink, whose buffer is empty, or else to the buffer. -/
theorem Sound.emit (hx : h.session? s = some x) (hs : Sound s h fl x) (hd : x.state ≠ .disposed)
    (text : String) (kind : OutputKind) :
    ∃ x', (h.emit s text kind).session? s = some x' ∧ Sound s (h.emit s text kind) fl x' ∧
      x'.state = x.state := by
  cases hl : h.liveSink x with
  | some k =>
    rw [Host.emit_live hx hl]
    refine ⟨x, by simp [hx], ?_, rfl⟩
    exact { fits := hs.fits
            single := hs.single
            flight := hs.flight
            pump := hs.pump
            sink := by simpa using hs.sink
            quiet := by simpa using hs.quiet }
  | none =>
    rw [Host.emit_buffered hx hl]
    refine ⟨{ x with buffer := x.buffer.push text kind }, by simp [hx], ?_, rfl⟩
    -- the buffered record has the same sink, which is still not held
    have hl' : (h.modifySession s fun y => { y with buffer := y.buffer.push text kind }).liveSink
        { x with buffer := x.buffer.push text kind } = none := hl
    exact { fits := hs.fits.withBuffer hd _
            single := hs.single
            flight := hs.flight
            pump := hs.pump
            sink := hs.sink
            quiet := fun hsome => by rw [hl'] at hsome; cases hsome }

theorem keeps_begin {h : Host T} {spec : LaunchSpec} (hb : σ.host.startBegin s = .ok (h, spec)) :
    Keeps s σ (σ.after s .begin h (σ.flights ++ [.launching spec])) := by
  intro x hx hs
  obtain ⟨y, hy, hc, hst, rfl, rfl⟩ := Host.startBegin_eq_ok.mp hb
  obtain rfl : x = y := Option.some.inj (hx.symm.trans hy)
  -- the session was not starting, so no start was in flight
  have hnil : σ.flights = [] := by
    cases hfl : σ.flights with
    | nil => rfl
    | cons f fs =>
      have hstarting := hs.flight.mp (by simp [hfl])
      simp [hst] at hstarting
  refine ⟨{ x with starting := true }, by simp [hx], ?_, .inl rfl⟩
  exact { fits := hs.fits.claim hc
          single := by simp [hnil]
          flight := by simp [hnil]
          pump := hs.pump
          sink := hs.sink
          quiet := hs.quiet }

theorem keeps_launch {i : Nat} {spec : LaunchSpec} :
    Keeps s σ (σ.after s (.launch i) (σ.host.launch spec).1
      (σ.flights.set i (.launched (σ.host.launch spec).2))) := by
  intro x hx hs
  refine ⟨x, by simp [hx], ?_, .inl rfl⟩
  exact { fits := hs.fits
          single := by simpa using hs.single
          flight := by simpa using hs.flight
          pump := by simpa using hs.pump
          sink := by simpa using hs.sink
          quiet := by simpa using hs.quiet }

theorem keeps_finish {i : Nat} {r : Except HostError Nat} (hi : σ.flights[i]? = some (.launched r)) :
    Keeps s σ (σ.after s (.finish i) (σ.host.startFinish s r).1 (σ.flights.eraseIdx i)) := by
  intro x hx hs
  -- the finishing start is the only one in flight, so none is left
  have hlen : i < σ.flights.length := (List.getElem?_eq_some_iff.mp hi).1
  have hnil : σ.flights.eraseIdx i = [] := by
    have := hs.single
    rw [List.eraseIdx_eq_nil_iff]
    right
    omega
  have hstarting : x.starting = true := hs.flight.mp (by intro h; simp [h] at hlen)
  cases r with
  | error e =>
    refine ⟨{ x with starting := false }, by simp [hx], ?_, .inl rfl⟩
    exact { fits := hs.fits.unclaim
            single := by simp [hnil]
            flight := by simp [hnil]
            pump := hs.pump
            sink := hs.sink
            quiet := hs.quiet }
  | ok c =>
    rcases hs.fits.starting hstarting with hc | hd
    · -- still created: the session adopts the process
      rw [Host.startFinish_created hx hc]
      obtain ⟨b, hb⟩ := Host.session?_adopt_self c x.options.stripAnsi
        (show (σ.host.modifySession s fun y => { y with starting := false }).session? s =
          some { x with starting := false } by simp [hx])
      refine ⟨_, hb, ?_, .inr (by simp [hc, Session.enter, SessionState.allows])⟩
      exact { fits := hs.fits.adopt hc c b
              single := by simp [hnil]
              flight := by simp [hnil, Session.enter]
              pump := fun _ => by simp [Session.enter]
              sink := by simpa [Session.enter] using hs.sink
              quiet := by simpa [Host.liveSink, Session.enter] using hs.quiet }
    · -- disposed during the launch: the process is killed
      rw [Host.startFinish_disposed hx hd]
      refine ⟨{ x with starting := false }, by simp [hx], ?_, .inl rfl⟩
      exact { fits := hs.fits.unclaim
              single := by simp [hnil]
              flight := by simp [hnil]
              pump := by simpa using hs.pump
              sink := by simpa using hs.sink
              quiet := by simpa [Host.liveSink] using hs.quiet }

theorem keeps_terminate : Keeps s σ (σ.after s .terminate (σ.host.terminate s).1 σ.flights) := by
  intro x hx hs
  by_cases hst : x.state = .running
  · obtain ⟨c, hc⟩ := Option.isSome_iff_exists.mp (hs.fits.running hst).2.1
    rw [Host.terminate_running hx hst hc]
    refine ⟨Session.enter { x with writer := none } .terminated, by simp [hx], ?_,
      .inr (by simp [Session.enter, hst, SessionState.allows])⟩
    exact { fits := hs.fits.stop hst
            single := hs.single
            flight := hs.flight
            pump := fun _ => by simp [Session.enter]
            sink := by simpa [Session.enter] using hs.sink
            quiet := by simpa [Host.liveSink, Session.enter] using hs.quiet }
  · -- any other state refuses and leaves the host alone
    have hsame : (σ.host.terminate s).1 = σ.host := by
      cases hs' : x.state with
      | created => rw [Host.terminate_created hx hs']
      | running => exact absurd hs' hst
      | terminated => rw [Host.terminate_stopped hx (.inl hs')]
      | disposed => rw [Host.terminate_stopped hx (.inr hs')]
    rw [hsame]
    exact keeps_same x hx hs

theorem keeps_dispose : Keeps s σ (σ.after s .dispose (σ.host.dispose s) σ.flights) := by
  intro x hx hs
  by_cases hd : x.state = .disposed
  · rw [Host.dispose_disposed hx hd]; exact keeps_same x hx hs
  · rw [Host.dispose_live hx hd]
    refine ⟨x.release, by simp [hx], ?_,
      .inr ((SessionState.allows_disposed_iff _).mpr hd)⟩
    exact { fits := Session.Fits.release x
            single := hs.single
            flight := hs.flight
            pump := fun _ => by simp [Session.release, Session.enter]
            sink := by simp [Session.release, Session.enter]
            quiet := fun _ => rfl }

theorem keeps_execute {line : String} :
    Keeps s σ (σ.after s (.execute line) (σ.host.execute s line).1 σ.flights) := by
  intro x hx hs
  by_cases hr : x.state = .running
  · obtain ⟨c, hc⟩ := Option.isSome_iff_exists.mp (hs.fits.running hr).1
    rw [Host.execute_running hx hr hc]
    refine ⟨{ x with prompt := x.prompt.begin }, by simp [hx], ?_, .inl rfl⟩
    exact { fits := hs.fits.withPrompt _
            single := hs.single
            flight := hs.flight
            pump := by simpa using hs.pump
            sink := by simpa using hs.sink
            quiet := by simpa [Host.liveSink] using hs.quiet }
  · rw [Host.execute_not_running hx hr]; exact keeps_same x hx hs

theorem keeps_attach {k : Nat} (hk : k < σ.host.sinks.size) :
    Keeps s σ (σ.after s (.attach k) (σ.host.attach s k) σ.flights) := by
  intro x hx hs
  by_cases hd : x.state = .disposed
  · rw [Host.attach_disposed hx hd]; exact keeps_same x hx hs
  · refine ⟨_, Host.session?_attach hx hd, ?_, .inl rfl⟩
    exact { fits := hs.fits.withSink hd _ _
            single := hs.single
            flight := hs.flight
            pump := by simpa using hs.pump
            sink := fun j hj => by
              simp only [Option.some.injEq] at hj
              subst hj
              simpa using hk
            quiet := fun _ => rfl }

theorem keeps_detach : Keeps s σ (σ.after s .detach (σ.host.detach s) σ.flights) := by
  intro x hx hs
  refine ⟨{ x with sink := none }, by simp [Host.detach_eq, hx], ?_, .inl rfl⟩
  exact { fits := hs.fits.detach
          single := hs.single
          flight := hs.flight
          pump := hs.pump
          sink := by simp
          quiet := by simp [Host.liveSink] }

theorem keeps_deliver {text : String} :
    Keeps s σ (σ.after s (.deliver text) ((σ.host.deliver s text).getD σ.host) σ.flights) := by
  intro x hx hs
  by_cases hd : x.state = .disposed
  · rw [Host.deliver_disposed hx hd]; exact keeps_same x hx hs
  · rw [Host.deliver_live hx hd]
    -- the prompt tracker moves on, which is all that happens when nothing is left
    have hx' : (σ.host.modifySession s fun y => { y with prompt := (x.prompt.process text).1 }).session? s
        = some { x with prompt := (x.prompt.process text).1 } := by simp [hx]
    have hs' : Sound s (σ.host.modifySession s fun y => { y with prompt := (x.prompt.process text).1 })
        σ.flights { x with prompt := (x.prompt.process text).1 } :=
      { fits := hs.fits.withPrompt _
        single := hs.single
        flight := hs.flight
        pump := hs.pump
        sink := hs.sink
        quiet := hs.quiet }
    split
    · exact ⟨_, hx', hs', .inl rfl⟩
    · obtain ⟨x', hx'', hs'', hst⟩ := hs'.emit hx' hd (x.prompt.process text).2 .stdout
      exact ⟨x', hx'', hs'', .inl hst⟩

theorem keeps_close {code : Option Int} (hpump : σ.host.hasPump s = true) :
    Keeps s σ (σ.after s (.close code) (σ.host.outputClosed s code) σ.flights) := by
  intro x hx hs
  by_cases hd : x.state = .disposed
  · rw [Host.outputClosed_disposed hx hd]; exact keeps_same x hx hs
  · rw [Host.outputClosed_live hx hd]
    -- a reader exists, so the session has left `created`
    have hc := hs.pump hpump
    have hx' : (σ.host.modifySession s (·.outputEnded code)).session? s = some (x.outputEnded code) := by
      simp [hx]
    have hkeep := Session.outputEnded_keeps x code
    have hs' : Sound s (σ.host.modifySession s (·.outputEnded code)) σ.flights (x.outputEnded code) :=
      { fits := hs.fits.outputEnded hc code
        single := hs.single
        flight := by rw [hkeep.2.1]; exact hs.flight
        pump := fun hp => by simpa [hkeep.1] using hs.pump hp
        sink := by rw [hkeep.2.2.1]; exact hs.sink
        quiet := by simpa [Host.liveSink, hkeep.2.2.1, hkeep.2.2.2] using hs.quiet }
    have hmove := Session.outputEnded_moves x code
    split
    · obtain ⟨x', hx'', hs'', hst⟩ :=
        hs'.emit hx' (fun h => hd ((Session.outputEnded_state x code).mp h)) _ .system
      exact ⟨x', hx'', hs'', hst ▸ hmove⟩
    · exact ⟨_, hx', hs', hmove⟩

theorem keeps_world {h : Host T} (hw : σ.host.Around s h) : Keeps s σ { σ with host := h } := by
  intro x hx hs
  refine ⟨x, hw.session.trans hx, ?_, .inl rfl⟩
  exact { fits := hs.fits
          single := hs.single
          flight := hs.flight
          pump := fun hp => hs.pump (hw.pump ▸ hp)
          sink := fun k hk => Nat.lt_of_lt_of_le (hs.sink k hk) hw.sinks
          quiet := fun hl => by
            -- a sink held now was held before, since no sink is held again
            obtain ⟨k, hk⟩ := Option.isSome_iff_exists.mp hl
            obtain ⟨hsk, ha⟩ := Host.liveSink_eq_some.mp hk
            have ha' := hw.held k (hs.sink k hsk) ha
            exact hs.quiet (by simp [Host.liveSink_eq_some.mpr ⟨hsk, ha'⟩]) }

/-- Every call keeps all sound around the session, and its state stays or
    moves as the lifecycle table allows. -/
theorem keeps_step {σ' : Console T} {c : Call T} {r : Except HostError Unit}
    (hstep : Step s σ c r σ') : Keeps s σ σ' := by
  cases hstep with
  | begin hb => exact keeps_begin hb
  | refuse _ => exact fun x hx hs => ⟨x, hx, hs, .inl rfl⟩
  | launch _ => exact keeps_launch
  | finish hi => exact keeps_finish hi
  | terminate => exact keeps_terminate
  | dispose => exact keeps_dispose
  | execute => exact keeps_execute
  | attach hk _ => exact keeps_attach hk
  | detach => exact keeps_detach
  | deliver _ => exact keeps_deliver
  | close hpump => exact keeps_close hpump
  | world hw => exact keeps_world hw

theorem inv_step {σ' : Console T} {c : Call T} {r : Except HostError Unit} (hinv : Inv s σ)
    (hstep : Step s σ c r σ') : Inv s σ' := by
  obtain ⟨x, hx, hs⟩ := hinv
  obtain ⟨x', hx', hs', -⟩ := keeps_step hstep x hx hs
  exact ⟨x', hx', hs'⟩

theorem Reachable.inv (hσ : Reachable s σ) : Inv s σ := by
  induction hσ with
  | init hfresh => exact inv_init hfresh
  | step _ hstep ih => exact inv_step ih hstep


/-! ### The lifecycle in every reachable state -/

/-- A step moves the session's state only as the lifecycle table allows. -/
theorem step_moves {σ' : Console T} {c : Call T} {r : Except HostError Unit} (hσ : Reachable s σ)
    (hstep : Step s σ c r σ') :
    σ'.host.stateOf s = σ.host.stateOf s ∨
      (σ.host.stateOf s).allows (σ'.host.stateOf s) = true := by
  obtain ⟨x, hx, hs⟩ := hσ.inv
  obtain ⟨x', hx', -, hmove⟩ := keeps_step hstep x hx hs
  rw [Host.stateOf_eq hx, Host.stateOf_eq hx']
  exact hmove

/-- In every state the system around a session reaches, the session's
    fields fit its lifecycle state, a start is in flight exactly while the
    session says it is starting, which it is only while created or once
    disposed, and watchers see the current state; every change they see is
    one the lifecycle table allows. A running session therefore always takes
    input, and stopping it always kills the process it controls. -/
theorem session_fields_fit_state (hσ : Reachable s σ) :
    ∃ x, σ.host.session? s = some x ∧ x.Fits ∧
      (σ.flights ≠ [] ↔ x.starting = true) ∧
      (σ.flights ≠ [] → x.state = .created ∨ x.state = .disposed) ∧
      σ.host.watched s = x.state ∧
      (∀ c r σ', Step s σ c r σ' → σ'.host.watched s ≠ σ.host.watched s →
        (σ.host.watched s).allows (σ'.host.watched s) = true) ∧
      (x.state = .running →
        (∀ line, (σ.host.execute s line).2 = .ok ()) ∧
        ∃ c, x.control = some c ∧ σ.host.terminate s =
          ((σ.host.killChild c).modifySession s fun y => Session.enter { y with writer := none } .terminated,
            .ok ())) := by
  obtain ⟨x, hx, hs⟩ := hσ.inv
  have hwatched : ∀ {σ : Console T}, Reachable s σ → σ.host.watched s = σ.host.stateOf s := by
    intro σ hσ
    obtain ⟨y, hy, hys⟩ := hσ.inv
    rw [Host.watched_eq hy, Host.stateOf_eq hy, hys.fits.published]
  refine ⟨x, hx, hs.fits, hs.flight, fun hfl => hs.fits.starting (hs.flight.mp hfl), ?_, ?_, ?_⟩
  · rw [hwatched hσ, Host.stateOf_eq hx]
  · intro c r σ' hstep hne
    rw [hwatched hσ, hwatched (hσ.step hstep)] at hne ⊢
    exact (step_moves hσ hstep).resolve_left hne
  · intro hr
    obtain ⟨hw, hc, -⟩ := hs.fits.running hr
    obtain ⟨w, hw⟩ := Option.isSome_iff_exists.mp hw
    obtain ⟨c, hc⟩ := Option.isSome_iff_exists.mp hc
    exact ⟨fun line => by rw [Host.execute_running hx hr hw], c, hc, Host.terminate_running hx hr hc⟩

/-- A console started and adopted by its start: it is watched as running,
    takes every line, and stopping it kills the process it controls. -/
theorem adopted_console_takes_input :
    ∃ σ, Run 0 ({ host := { sessions := #[Session.create "repl" (LaunchSpec.ofProgram "sh") {}] } } : Console Empty)
        [(.begin, .ok ()), (.launch 0, .ok ()), (.finish 0, .ok ())] σ ∧
      σ.host.watched 0 = .running ∧ (∀ line, (σ.host.execute 0 line).2 = .ok ()) ∧
      ∃ c, σ.host.terminate 0 = ((σ.host.killChild c).modifySession 0 fun y =>
        Session.enter { y with writer := none } .terminated, .ok ()) := by
  obtain ⟨σ, hrun, hr⟩ :
      ∃ σ, Run 0 ({ host := { sessions := #[Session.create "repl" (LaunchSpec.ofProgram "sh") {}] } } : Console Empty)
          [(.begin, .ok ()), (.launch 0, .ok ()), (.finish 0, .ok ())] σ ∧ σ.host.stateOf 0 = .running :=
    ⟨_, .cons (.begin rfl) (.cons (.launch rfl) (.cons (Step.finish (r := .ok 0) rfl) (.nil _))), rfl⟩
  obtain ⟨x, hx, -, -, -, hw, -, hrunning⟩ :=
    session_fields_fit_state ((Reachable.init (fresh_create "repl" (LaunchSpec.ofProgram "sh") {})).run hrun)
  have hxr : x.state = .running := by rw [← Host.stateOf_eq hx, hr]
  exact ⟨σ, hrun, hw.trans hxr, (hrunning hxr).1, (hrunning hxr).2.imp fun c hc => hc.2⟩

end Console

end ReplHost
