import ReplHost.Host.Lifecycle

/-! # What the host's operations do to one session

  Every operation of the host on a session changes that session's record in
  place (`modifySession`); besides, it may write to a sink, launch, write to
  or kill a process, or set up a reader. This module says once, for each
  operation, what it does to the record of the session it acts on, and which
  parts of the host it leaves alone. Later proofs cite these lemmas and do
  not unfold the operations.

  The parts of a host are read through a few views: the record of a
  session (`session?`), the pieces a sink received (`sinkChunks`), whether
  someone holds a sink (`sinkAlive`), and whether a session has a reader
  (`hasPump`).
-/

namespace ReplHost

variable {T : Type}

namespace Host

/-- Whether a reader was set up for a session's output. -/
def hasPump (h : Host T) (s : Nat) : Bool := h.pumps.any (·.session = s)

variable {h : Host T} {s : Nat} {x : Session}

/-! ### Reading a host after a change -/

theorem session?_modifySession (h : Host T) (s t : Nat) (f : Session → Session) :
    (h.modifySession s f).session? t = if s = t then (h.session? t).map f else h.session? t := by
  simp [modifySession, session?, Array.getElem?_modify]

@[simp] theorem session?_modifySession_self (h : Host T) (s : Nat) (f : Session → Session) :
    (h.modifySession s f).session? s = (h.session? s).map f := by
  simp [session?_modifySession]

theorem stateOf_eq (hx : h.session? s = some x) : h.stateOf s = x.state := by
  simp [stateOf, hx]

theorem watched_eq (hx : h.session? s = some x) : h.watched s = x.published := by
  simp [watched, hx]

@[simp] theorem modifySession_sinks (h : Host T) (s : Nat) (f : Session → Session) :
    (h.modifySession s f).sinks = h.sinks := rfl

@[simp] theorem modifySession_pumps (h : Host T) (s : Nat) (f : Session → Session) :
    (h.modifySession s f).pumps = h.pumps := rfl

@[simp] theorem modifySession_sinkAlive (h : Host T) (s : Nat) (f : Session → Session) :
    (h.modifySession s f).sinkAlive = h.sinkAlive := rfl

@[simp] theorem modifySession_liveSink (h : Host T) (s : Nat) (f : Session → Session) :
    (h.modifySession s f).liveSink = h.liveSink := rfl

@[simp] theorem writeSink_sessions (h : Host T) (k : Nat) (text : String) (kind : OutputKind) :
    (h.writeSink k text kind).sessions = h.sessions := rfl

@[simp] theorem writeSink_pumps (h : Host T) (k : Nat) (text : String) (kind : OutputKind) :
    (h.writeSink k text kind).pumps = h.pumps := rfl

@[simp] theorem writeSink_sinkAlive (h : Host T) (k : Nat) (text : String) (kind : OutputKind) :
    (h.writeSink k text kind).sinkAlive = h.sinkAlive := rfl

@[simp] theorem writeSink_liveSink (h : Host T) (k : Nat) (text : String) (kind : OutputKind) :
    (h.writeSink k text kind).liveSink = h.liveSink := rfl

@[simp] theorem size_writeSink (h : Host T) (k : Nat) (text : String) (kind : OutputKind) :
    (h.writeSink k text kind).sinks.size = h.sinks.size := by
  simp [writeSink]

@[simp] theorem session?_writeSink (h : Host T) (k : Nat) (text : String) (kind : OutputKind)
    (t : Nat) : (h.writeSink k text kind).session? t = h.session? t := rfl

/-- A process is killed without touching any session, sink or reader. -/
theorem killChild_frame (h : Host T) (c : Nat) :
    (h.killChild c).sessions = h.sessions ∧ (h.killChild c).sinks = h.sinks ∧
      (h.killChild c).pumps = h.pumps ∧ (h.killChild c).sinkAlive = h.sinkAlive := by
  unfold killChild
  split <;> exact ⟨rfl, rfl, rfl, rfl⟩

@[simp] theorem session?_killChild (h : Host T) (c t : Nat) :
    (h.killChild c).session? t = h.session? t := by
  simp [session?, (killChild_frame h c).1]

@[simp] theorem killChild_sinks (h : Host T) (c : Nat) : (h.killChild c).sinks = h.sinks :=
  (killChild_frame h c).2.1

@[simp] theorem killChild_pumps (h : Host T) (c : Nat) : (h.killChild c).pumps = h.pumps :=
  (killChild_frame h c).2.2.1

@[simp] theorem killChild_sinkAlive (h : Host T) (c : Nat) :
    (h.killChild c).sinkAlive = h.sinkAlive :=
  (killChild_frame h c).2.2.2

@[simp] theorem killChild_liveSink (h : Host T) (c : Nat) :
    (h.killChild c).liveSink = h.liveSink := by
  funext x
  simp [liveSink]

/-- Input is written to a process without touching any session, sink or
    reader. -/
theorem writeChild_frame (h : Host T) (c : Nat) (bytes : List UInt8) :
    (h.writeChild c bytes).sessions = h.sessions ∧ (h.writeChild c bytes).sinks = h.sinks ∧
      (h.writeChild c bytes).pumps = h.pumps ∧
      (h.writeChild c bytes).sinkAlive = h.sinkAlive := by
  unfold writeChild
  split <;> exact ⟨rfl, rfl, rfl, rfl⟩

@[simp] theorem session?_writeChild (h : Host T) (c : Nat) (bytes : List UInt8) (t : Nat) :
    (h.writeChild c bytes).session? t = h.session? t := by
  simp [session?, (writeChild_frame h c bytes).1]

@[simp] theorem writeChild_sinks (h : Host T) (c : Nat) (bytes : List UInt8) :
    (h.writeChild c bytes).sinks = h.sinks :=
  (writeChild_frame h c bytes).2.1

@[simp] theorem writeChild_pumps (h : Host T) (c : Nat) (bytes : List UInt8) :
    (h.writeChild c bytes).pumps = h.pumps :=
  (writeChild_frame h c bytes).2.2.1

@[simp] theorem writeChild_sinkAlive (h : Host T) (c : Nat) (bytes : List UInt8) :
    (h.writeChild c bytes).sinkAlive = h.sinkAlive :=
  (writeChild_frame h c bytes).2.2.2

/-- A launch only adds a process and counts the attempt. -/
theorem launch_frame (h : Host T) (spec : LaunchSpec) :
    (h.launch spec).1.sessions = h.sessions ∧ (h.launch spec).1.sinks = h.sinks ∧
      (h.launch spec).1.pumps = h.pumps ∧ (h.launch spec).1.sinkAlive = h.sinkAlive := by
  dsimp only [launch]
  split
  · exact ⟨rfl, rfl, rfl, rfl⟩
  · split
    · exact ⟨rfl, rfl, rfl, rfl⟩
    · split <;> exact ⟨rfl, rfl, rfl, rfl⟩

@[simp] theorem session?_launch (h : Host T) (spec : LaunchSpec) (t : Nat) :
    (h.launch spec).1.session? t = h.session? t := by
  simp [session?, (launch_frame h spec).1]

@[simp] theorem launch_sinks (h : Host T) (spec : LaunchSpec) : (h.launch spec).1.sinks = h.sinks :=
  (launch_frame h spec).2.1

@[simp] theorem launch_pumps (h : Host T) (spec : LaunchSpec) : (h.launch spec).1.pumps = h.pumps :=
  (launch_frame h spec).2.2.1

@[simp] theorem launch_sinkAlive (h : Host T) (spec : LaunchSpec) :
    (h.launch spec).1.sinkAlive = h.sinkAlive :=
  (launch_frame h spec).2.2.2

@[simp] theorem hasPump_modifySession (h : Host T) (s t : Nat) (f : Session → Session) :
    (h.modifySession s f).hasPump t = h.hasPump t := rfl

@[simp] theorem hasPump_killChild (h : Host T) (c t : Nat) :
    (h.killChild c).hasPump t = h.hasPump t := by
  simp [hasPump]

@[simp] theorem hasPump_writeChild (h : Host T) (c t : Nat) (bytes : List UInt8) :
    (h.writeChild c bytes).hasPump t = h.hasPump t := by
  simp [hasPump]

@[simp] theorem hasPump_launch (h : Host T) (spec : LaunchSpec) (t : Nat) :
    (h.launch spec).1.hasPump t = h.hasPump t := by
  simp [hasPump]

@[simp] theorem hasPump_writeSink (h : Host T) (k : Nat) (text : String) (kind : OutputKind)
    (t : Nat) : (h.writeSink k text kind).hasPump t = h.hasPump t := rfl

/-! ### Held sinks -/

theorem liveSink_eq_some {k : Nat} : h.liveSink x = some k ↔ x.sink = some k ∧ h.sinkAlive k = true := by
  cases hs : x.sink with
  | none => simp [liveSink, hs]
  | some j =>
    constructor
    · intro hl
      simp only [liveSink, hs, Option.filter] at hl
      split at hl
      · cases hl
        exact ⟨rfl, by assumption⟩
      · cases hl
    · rintro ⟨hj, ha⟩
      cases hj
      simp [liveSink, hs, Option.filter, ha]

@[simp] theorem launch_liveSink (h : Host T) (spec : LaunchSpec) :
    (h.launch spec).1.liveSink = h.liveSink := by
  funext x
  simp [liveSink]

@[simp] theorem writeChild_liveSink (h : Host T) (c : Nat) (bytes : List UInt8) :
    (h.writeChild c bytes).liveSink = h.liveSink := by
  funext x
  simp [liveSink]

/-! ### Starting -/

/-- A start gets past its first part only on a created session that is not
    starting yet; it marks the session as starting and hands back its spec. -/
theorem startBegin_eq_ok {h' : Host T} {spec : LaunchSpec} :
    h.startBegin s = .ok (h', spec) ↔
      ∃ x, h.session? s = some x ∧ x.state = .created ∧ x.starting = false ∧
        h' = h.modifySession s (fun x => { x with starting := true }) ∧ spec = x.spec := by
  cases hx : h.session? s with
  | none => simp [startBegin, hx]
  | some x =>
    cases hst : x.state <;> cases hsg : x.starting <;> simp [startBegin, hx, hst, hsg]
    constructor
    · rintro ⟨rfl, rfl⟩
      exact ⟨rfl, rfl⟩
    · rintro ⟨rfl, rfl⟩
      exact ⟨rfl, rfl⟩

@[simp] theorem startFinish_error (h : Host T) (s : Nat) (e : HostError) :
    h.startFinish s (.error e) =
      (h.modifySession s fun x => { x with starting := false }, .error e) := rfl

/-- A process launched for a session disposed meanwhile is killed. -/
theorem startFinish_disposed {c : Nat} (hx : h.session? s = some x) (hd : x.state = .disposed) :
    h.startFinish s (.ok c) =
      ((h.modifySession s fun x => { x with starting := false }).killChild c,
        .error .sessionDisposed) := by
  simp [startFinish, hx, hd]

/-- A process launched for a session still created is adopted. -/
theorem startFinish_created {c : Nat} (hx : h.session? s = some x) (hc : x.state = .created) :
    h.startFinish s (.ok c) =
      ((h.modifySession s fun x => { x with starting := false }).adopt s c x.options.stripAnsi,
        .ok ()) := by
  simp [startFinish, hx, hc, SessionState.allows]

/-- A start ending in an error clears the flag, and kills the process the
    launcher returned, if any. -/
theorem startFinish_of_error {r : Except HostError Nat} {e : HostError}
    (he : (h.startFinish s r).2 = .error e) :
    (h.startFinish s r).1 = h.modifySession s (fun x => { x with starting := false }) ∨
      ∃ c, r = .ok c ∧
        (h.startFinish s r).1 = (h.modifySession s fun x => { x with starting := false }).killChild c := by
  cases r with
  | error e' => exact .inl rfl
  | ok c =>
    cases hx : (h.modifySession s fun x => { x with starting := false }).session? s with
    | none => exact .inr ⟨c, rfl, by simp only [startFinish, hx]⟩
    | some x =>
      by_cases hd : x.state = .disposed
      · exact .inr ⟨c, rfl, by simp only [startFinish, hx, hd, if_true]⟩
      · by_cases ha : x.state.allows .running
        · simp [startFinish, hx, hd, ha] at he
        · exact .inl (by simp [startFinish, hx, hd, ha])

theorem session?_adopt (h : Host T) (s c : Nat) (strip : Bool) (t : Nat) :
    (h.adopt s c strip).session? t = (h.modifySession s fun x =>
      { x.enter .running with
        writer := some c
        control := some c
        hasPid := match h.child? c with
          | some (.terminal _) => true
          | _ => false }).session? t := rfl

/-- The adopted process is the one the session writes to and controls. -/
theorem session?_adopt_self (c : Nat) (strip : Bool) (hx : h.session? s = some x) :
    ∃ b, (h.adopt s c strip).session? s =
      some { x.enter .running with writer := some c, control := some c, hasPid := b } := by
  refine ⟨match h.child? c with
    | some (.terminal _) => true
    | _ => false, ?_⟩
  simp [session?_adopt, hx]

@[simp] theorem adopt_sinks (h : Host T) (s c : Nat) (strip : Bool) :
    (h.adopt s c strip).sinks = h.sinks := rfl

@[simp] theorem adopt_sinkAlive (h : Host T) (s c : Nat) (strip : Bool) :
    (h.adopt s c strip).sinkAlive = h.sinkAlive := rfl

@[simp] theorem adopt_liveSink (h : Host T) (s c : Nat) (strip : Bool) :
    (h.adopt s c strip).liveSink = h.liveSink := rfl

/-- Adopting a process sets up a reader for the session. -/
@[simp] theorem hasPump_adopt (h : Host T) (s c : Nat) (strip : Bool) (t : Nat) :
    (h.adopt s c strip).hasPump t = (h.hasPump t || s = t) := by
  simp [adopt, hasPump]

/-! ### Stopping and releasing -/

theorem terminate_stopped (hx : h.session? s = some x)
    (hs : x.state = .terminated ∨ x.state = .disposed) : h.terminate s = (h, .ok ()) := by
  rcases hs with hs | hs <;> simp [terminate, stateOf, hx, hs]

theorem terminate_created (hx : h.session? s = some x) (hs : x.state = .created) :
    h.terminate s = (h, .error (.notRunning .created)) := by
  simp [terminate, stateOf, hx, hs]

/-- Stopping a running session kills the process it controls and drops the
    process's input. -/
theorem terminate_running {c : Nat} (hx : h.session? s = some x) (hs : x.state = .running)
    (hc : x.control = some c) :
    h.terminate s =
      ((h.killChild c).modifySession s fun x => Session.enter { x with writer := none } .terminated,
        .ok ()) := by
  simp [terminate, stateOf, hx, hs, hc]

theorem dispose_disposed (hx : h.session? s = some x) (hd : x.state = .disposed) :
    h.dispose s = h := by
  simp [dispose, stateOf, hx, hd]

theorem dispose_live (hx : h.session? s = some x) (hd : x.state ≠ .disposed) :
    h.dispose s = h.modifySession s Session.release := by
  simp [dispose, stateOf, hx, hd]

/-! ### Input -/

theorem execute_not_running {line : String} (hx : h.session? s = some x)
    (hr : x.state ≠ .running) : h.execute s line = (h, .error .consoleNotEnabled) := by
  simp [execute, executeVia, hx, hr]

/-- A line submitted to a running session goes to its process, followed by a
    line feed. -/
theorem execute_running {line : String} {c : Nat} (hx : h.session? s = some x)
    (hr : x.state = .running) (hw : x.writer = some c) :
    h.execute s line =
      ((h.modifySession s fun x => { x with prompt := x.prompt.begin }).writeChild c
        (Utf8.encode (line ++ "\n")), .ok ()) := by
  simp [execute, executeVia, hx, hr, hw]

/-! ### Output -/

/-- Output reaches the session's sink while someone holds it. -/
theorem emit_live {k : Nat} {text : String} {kind : OutputKind} (hx : h.session? s = some x)
    (hk : h.liveSink x = some k) : h.emit s text kind = h.writeSink k text kind := by
  simp [emit, hx, hk]

/-- Output no held sink takes goes to the session's buffer. -/
theorem emit_buffered {text : String} {kind : OutputKind} (hx : h.session? s = some x)
    (hk : h.liveSink x = none) :
    h.emit s text kind =
      h.modifySession s fun x => { x with buffer := x.buffer.push text kind } := by
  simp [emit, hx, hk]

theorem deliver_disposed {text : String} (hx : h.session? s = some x)
    (hd : x.state = .disposed) : h.deliver s text = none := by
  simp [deliver, hx, hd]

/-- A session not disposed cleans the text of echo and prompt and hands on
    what is left, unless nothing is. -/
theorem deliver_live {text : String} (hx : h.session? s = some x) (hd : x.state ≠ .disposed) :
    h.deliver s text =
      some (if (x.prompt.process text).2.isEmpty then
          h.modifySession s fun y => { y with prompt := (x.prompt.process text).1 }
        else (h.modifySession s fun y => { y with prompt := (x.prompt.process text).1 }).emit s
          (x.prompt.process text).2 .stdout) := by
  simp [deliver, hx, hd]

theorem outputClosed_disposed {code : Option Int} (hx : h.session? s = some x)
    (hd : x.state = .disposed) : h.outputClosed s code = h := by
  simp [outputClosed, hx, hd]

/-- At the end of its output a session not disposed records the exit,
    stops running, and reports the exit when asked to. -/
theorem outputClosed_live {code : Option Int} (hx : h.session? s = some x)
    (hd : x.state ≠ .disposed) :
    h.outputClosed s code =
      if x.options.reportExit then
        (h.modifySession s (·.outputEnded code)).emit s
          (Session.exitNotice (x.outputEnded code).exitCode) .system
      else h.modifySession s (·.outputEnded code) := by
  simp [outputClosed, hx, hd]

/-! ### Attaching and detaching -/

/-- Writing a list of pieces to one sink touches no session, reader or
    holder, and adds no sink. -/
theorem foldl_writeSink_frame (k : Nat) (cs : List Chunk) (h : Host T) :
    (cs.foldl (fun h c => h.writeSink k c.text c.kind) h).sessions = h.sessions ∧
      (cs.foldl (fun h c => h.writeSink k c.text c.kind) h).pumps = h.pumps ∧
      (cs.foldl (fun h c => h.writeSink k c.text c.kind) h).sinkAlive = h.sinkAlive ∧
      (cs.foldl (fun h c => h.writeSink k c.text c.kind) h).sinks.size = h.sinks.size := by
  induction cs generalizing h with
  | nil => exact ⟨rfl, rfl, rfl, rfl⟩
  | cons c cs ih =>
    obtain ⟨h1, h2, h3, h4⟩ := ih (h.writeSink k c.text c.kind)
    exact ⟨h1, h2, h3, by rw [List.foldl_cons, h4, size_writeSink]⟩

theorem attach_disposed {k : Nat} (hx : h.session? s = some x) (hd : x.state = .disposed) :
    h.attach s k = h := by
  simp [attach, hx, hd]

@[simp] theorem session?_foldl_writeSink (k : Nat) (cs : List Chunk) (h : Host T) (t : Nat) :
    (cs.foldl (fun h c => h.writeSink k c.text c.kind) h).session? t = h.session? t := by
  unfold session?
  rw [(foldl_writeSink_frame k cs h).1]

/-- Attaching flushes the buffer and then routes output to the new sink. -/
theorem session?_attach {k : Nat} (hx : h.session? s = some x) (hd : x.state ≠ .disposed) :
    (h.attach s k).session? s = some { x with sink := some k, buffer := x.buffer.drain.2 } := by
  simp [attach, hx, hd]

theorem attach_frame (h : Host T) (s k : Nat) :
    (h.attach s k).pumps = h.pumps ∧ (h.attach s k).sinkAlive = h.sinkAlive ∧
      (h.attach s k).sinks.size = h.sinks.size := by
  unfold attach
  split
  · exact ⟨rfl, rfl, rfl⟩
  · split
    · exact ⟨rfl, rfl, rfl⟩
    · rename_i x _ _
      obtain ⟨_, h2, h3, h4⟩ := foldl_writeSink_frame k x.buffer.drain.1
        (h.modifySession s fun y => { y with sink := none, buffer := x.buffer.drain.2 })
      exact ⟨h2, h3, h4⟩

@[simp] theorem hasPump_attach (h : Host T) (s k t : Nat) : (h.attach s k).hasPump t = h.hasPump t := by
  simp [hasPump, (attach_frame h s k).1]

@[simp] theorem attach_sinkAlive (h : Host T) (s k : Nat) :
    (h.attach s k).sinkAlive = h.sinkAlive := (attach_frame h s k).2.1

@[simp] theorem attach_liveSink (h : Host T) (s k : Nat) :
    (h.attach s k).liveSink = h.liveSink := by
  funext x
  simp [liveSink]

@[simp] theorem size_attach (h : Host T) (s k : Nat) :
    (h.attach s k).sinks.size = h.sinks.size := (attach_frame h s k).2.2

theorem detach_eq (h : Host T) (s : Nat) :
    h.detach s = h.modifySession s fun x => { x with sink := none } := rfl

end Host

end ReplHost
