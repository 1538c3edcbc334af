import ReplHost.Proofs.Session.Lifecycle

/-! # Submitting a line through a writer that may fail

  `execute` first marks the prompt as evaluating, with the echo of the line
  still to come, and then writes the line, writes a line feed and flushes:
  three steps, each of which a pipe or a terminal may refuse
  (`WriteFaults`), writing the line possibly after a prefix of it went
  out. The in-memory writer refuses none.

  For every session whose fields fit its state (`Session.Fits`) and every
  step the writer may refuse:

  - the call succeeds exactly when the session runs and no step fails, and
    then the line and a line feed have gone to the process;
  - a call that fails never changes the lifecycle state, and on a session
    that does not run it changes nothing at all;
  - a step that fails, however, leaves the prompt marked: the tracker reads
    evaluating with the echo pending, so the next line of output is dropped
    as if it were the echo. The mark is made before the first step that can
    fail.

  With the writer that never fails, a call that fails leaves the host as it
  was.

  Main statement: `submitted_line_outcome`.
-/

namespace ReplHost

variable {T : Type}

namespace Host

variable {h : Host T} {s c : Nat} {x : Session} {err : HostError}

theorem executeVia_not_running (hx : h.session? s = some x) (hr : x.state ≠ .running)
    (faults : WriteFaults) (line : String) :
    h.executeVia faults s line = (h, .error .consoleNotEnabled) := by
  simp [executeVia, hx, hr]

/-! ### A running session -/

section Running

variable (hx : h.session? s = some x) (hr : x.state = .running) (hw : x.writer = some c)
include hx hr hw

/-- Whichever step fails, submitting a line to a running session marks its
    prompt and changes nothing else of it. -/
theorem session?_executeVia_running (faults : WriteFaults) (line : String) :
    (h.executeVia faults s line).1.session? s = some { x with prompt := x.prompt.begin } := by
  have hbegun : (h.modifySession s fun y => { y with prompt := y.prompt.begin }).session? s =
      some { x with prompt := x.prompt.begin } := by
    rw [session?_modifySession_self, hx]
    rfl
  simp only [executeVia, hx, hr, hw, ne_eq, not_true_eq_false, if_false]
  split <;> simp only [session?_writeChild, hbegun, hr, hw]

/-- Submitting a line to a running session succeeds exactly when no step of
    the writing fails. -/
theorem executeVia_running_ok_iff (faults : WriteFaults) (line : String) :
    (h.executeVia faults s line).2 = .ok () ↔ faults = {} := by
  simp only [executeVia, hx, hr, hw, ne_eq, not_true_eq_false, if_false]
  rcases faults with ⟨_ | _, _ | _, _ | _⟩ <;> simp

/-- A running session's call fails only with the writer's error. -/
theorem executeVia_running_error (faults : WriteFaults) (line : String)
    (herr : (h.executeVia faults s line).2 = .error err) : ∃ e, err = .io e := by
  simp only [executeVia, hx, hr, hw, ne_eq, not_true_eq_false, if_false] at herr
  rcases faults with ⟨_ | e, _ | e', _ | e''⟩ <;> simp at herr <;> exact ⟨_, herr.symm⟩

end Running

/-- For every session whose fields fit its state, every step of the writing
    that may fail, and every line: the call succeeds exactly when the
    session runs and no step fails, and then the line and a line feed went
    to the process. A call that fails keeps the lifecycle state, and on a
    session that does not run changes nothing; on a running session it
    failed in the writer and left the prompt marked as evaluating with the
    echo pending. With the writer that never fails, a call that fails
    leaves the host as it was. -/
theorem submitted_line_outcome (hx : h.session? s = some x) (hfit : x.Fits) (faults : WriteFaults)
    (line : String) :
    ((h.executeVia faults s line).2 = .ok () ↔ x.state = .running ∧ faults = {}) ∧
    (x.state = .running → faults = {} → ∃ c, x.writer = some c ∧
      (h.executeVia faults s line).1 =
        (h.modifySession s fun y => { y with prompt := y.prompt.begin }).writeChild c
          (Utf8.encode (line ++ "\n"))) ∧
    (∀ err, (h.executeVia faults s line).2 = .error err →
      (h.executeVia faults s line).1.stateOf s = x.state ∧
      (x.state ≠ .running → (h.executeVia faults s line).1 = h) ∧
      (x.state = .running → (∃ e, err = .io e) ∧
        (h.executeVia faults s line).1.session? s =
          some { x with prompt := { executing := true, echoSkipped := false } })) ∧
    (∀ err, (h.execute s line).2 = .error err → (h.execute s line).1 = h) := by
  by_cases hr : x.state = .running
  · -- a running session writes to the process it controls
    obtain ⟨c, hw⟩ := Option.isSome_iff_exists.mp (hfit.running hr).1
    have hses := session?_executeVia_running hx hr hw faults line
    refine ⟨?_, fun _ hf => ⟨c, hw, ?_⟩, fun err herr => ⟨?_, fun hnr => absurd hr hnr, fun _ => ?_⟩, ?_⟩
    · rw [executeVia_running_ok_iff hx hr hw]
      simp [hr]
    · subst hf
      exact congrArg Prod.fst (execute_running hx hr hw)
    · rw [stateOf_eq hses]
    · exact ⟨executeVia_running_error hx hr hw faults line herr, hses⟩
    · intro err herr
      rw [execute_running hx hr hw] at herr
      cases herr
  · -- any other session refuses the line before the prompt is touched
    have hexec : h.execute s line = (h, .error .consoleNotEnabled) := execute_not_running hx hr
    rw [executeVia_not_running hx hr faults line, hexec]
    exact ⟨by simp [hr], fun hrun => absurd hrun hr, fun _ _ => ⟨stateOf_eq hx, fun _ => rfl,
      fun hrun => absurd hrun hr⟩, fun _ _ => rfl⟩

/-- A console of `evcxr` that runs, its prompt idle, writing to process 0. -/
def runningSession : Session :=
  { Session.create "Rust REPL" (LaunchSpec.ofProgram "evcxr") {} with
    state := .running, published := .running, writer := some 0, control := some 0 }

theorem runningSession_fits : runningSession.Fits where
  created := by simp [runningSession]
  running := fun _ => ⟨rfl, rfl, rfl, rfl⟩
  terminated := by simp [runningSession]
  disposed := by simp [runningSession]
  starting := by simp [runningSession, Session.create]
  published := rfl

/-- The host holding only the running console. -/
def runningConsole : Host Empty := { sessions := #[runningSession] }

/-- A running console whose pipe breaks after two bytes of the line went
    out refuses the line with the pipe's error and marks its prompt. -/
theorem broken_pipe_input_outcome :
    runningConsole.session? 0 = some runningSession ∧ runningSession.Fits ∧
    ((runningConsole.executeVia { line := some ⟨2, .simple .brokenPipe⟩ } 0 "1 + 1").2 = .ok () ↔
      runningSession.state = .running ∧ ({ line := some ⟨2, .simple .brokenPipe⟩ } : WriteFaults) = {}) ∧
    (runningSession.state = .running → ({ line := some ⟨2, .simple .brokenPipe⟩ } : WriteFaults) = {} →
      ∃ c, runningSession.writer = some c ∧
        (runningConsole.executeVia { line := some ⟨2, .simple .brokenPipe⟩ } 0 "1 + 1").1 =
          (runningConsole.modifySession 0 fun y => { y with prompt := y.prompt.begin }).writeChild c
            (Utf8.encode ("1 + 1" ++ "\n"))) ∧
    (∀ err, (runningConsole.executeVia { line := some ⟨2, .simple .brokenPipe⟩ } 0 "1 + 1").2 = .error err →
      (runningConsole.executeVia { line := some ⟨2, .simple .brokenPipe⟩ } 0 "1 + 1").1.stateOf 0 =
        runningSession.state ∧
      (runningSession.state ≠ .running →
        (runningConsole.executeVia { line := some ⟨2, .simple .brokenPipe⟩ } 0 "1 + 1").1 = runningConsole) ∧
      (runningSession.state = .running → (∃ e, err = .io e) ∧
        (runningConsole.executeVia { line := some ⟨2, .simple .brokenPipe⟩ } 0 "1 + 1").1.session? 0 =
          some { runningSession with prompt := { executing := true, echoSkipped := false } })) ∧
    (∀ err, (runningConsole.execute 0 "1 + 1").2 = .error err → (runningConsole.execute 0 "1 + 1").1 = runningConsole) :=
  ⟨rfl, runningSession_fits,
    submitted_line_outcome (h := runningConsole) rfl runningSession_fits { line := some ⟨2, .simple .brokenPipe⟩ } "1 + 1"⟩

/-- A line the pipe refuses leaves the console's idle prompt marked as
    evaluating with the echo pending: the call fails, yet the session is
    not as it was. -/
theorem refused_line_marks_prompt :
    (runningConsole.executeVia { line := some ⟨2, .simple .brokenPipe⟩ } 0 "1 + 1").2 =
      .error (.io (.simple .brokenPipe)) ∧
    ((runningConsole.executeVia { line := some ⟨2, .simple .brokenPipe⟩ } 0 "1 + 1").1.session? 0).map (·.prompt) =
      some { executing := true, echoSkipped := false } ∧
    (runningConsole.session? 0).map (·.prompt) = some { executing := false, echoSkipped := false } := by
  exact ⟨rfl, rfl, rfl⟩

end Host

end ReplHost
