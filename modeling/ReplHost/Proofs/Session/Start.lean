import ReplHost.Proofs.Session.Lifecycle

/-! # What a start guarantees under every interleaving

  A start runs the launcher outside the session's lock, so any call may
  come between its two parts. The invariant of `Console.Inv` makes this
  safe:

  - at most one start is ever between its two parts, so the launcher never
    runs twice at once for one session;
  - the end of a start whose launcher returned a process either adopts it,
    moving the session from created to running with that process as writer
    and control, or finds the session disposed meanwhile and kills the
    process before reporting the disposal;
  - a disposed session stays disposed, and a session that has left created
    never comes back to it, so over a whole run at most one process is
    adopted;
  - a refused start returns before anything changed, and a start ending in
    an error changes the session only by clearing its starting flag, and
    the host only by killing the process it launched.

  Each of these is shown for one step of a reachable system and carried
  along a run by induction.
-/

namespace ReplHost

variable {T : Type}

namespace Console

variable {s : Nat} {σ σ' : Console T} {c : Call T} {r : Except HostError Unit}

theorem step_keeps_disposed (hσ : Reachable s σ) (hstep : Step s σ c r σ')
    (hd : σ.host.stateOf s = .disposed) : σ'.host.stateOf s = .disposed := by
  rcases step_moves hσ hstep with h | h
  · exact h.trans hd
  · rw [hd, SessionState.allows_terminal (by rfl)] at h
    cases h

theorem step_never_creates (hσ : Reachable s σ) (hstep : Step s σ c r σ')
    (hc : σ.host.stateOf s ≠ .created) : σ'.host.stateOf s ≠ .created := by
  intro hc'
  rcases step_moves hσ hstep with h | h
  · exact hc (h ▸ hc')
  · rw [hc', SessionState.allows_created] at h
    cases h

/-- The end of a start whose launcher returned process `c` adopts it if the
    session is still created, and otherwise finds it disposed and kills the
    process. No other state is possible while a start is in flight. -/
theorem finish_launched {i c : Nat} (hσ : Reachable s σ)
    (hi : σ.flights[i]? = some (.launched (.ok c))) :
    (σ.host.stateOf s = .created ∧ (σ.host.startFinish s (.ok c)).2 = .ok () ∧
      ∃ x', (σ.host.startFinish s (.ok c)).1.session? s = some x' ∧ x'.state = .running ∧
        x'.writer = some c ∧ x'.control = some c) ∨
    (σ.host.stateOf s = .disposed ∧ σ.host.startFinish s (.ok c) =
      ((σ.host.modifySession s fun x => { x with starting := false }).killChild c,
        .error .sessionDisposed)) := by
  obtain ⟨x, hx, hs⟩ := hσ.inv
  have hstarting : x.starting = true := hs.flight.mp (by intro h; simp [h] at hi)
  rcases hs.fits.starting hstarting with hc | hd
  · left
    rw [Host.stateOf_eq hx, Host.startFinish_created hx hc]
    obtain ⟨b, hb⟩ := Host.session?_adopt_self c x.options.stripAnsi
      (show (σ.host.modifySession s fun y => { y with starting := false }).session? s =
        some { x with starting := false } by simp [hx])
    exact ⟨hc, rfl, _, hb, rfl, rfl, rfl⟩
  · right
    rw [Host.stateOf_eq hx, Host.startFinish_disposed hx hd]
    exact ⟨hd, rfl⟩

/-- The end of the `i`-th start in flight is the end the host computes for
    the launcher's answer. -/
theorem step_finish {i : Nat} (hstep : Step s σ (.finish i) r σ') :
    ∃ r', σ.flights[i]? = some (.launched r') ∧ r = (σ.host.startFinish s r').2 ∧
      σ'.host = (σ.host.startFinish s r').1 := by
  cases hstep with
  | finish hi => exact ⟨_, hi, rfl, rfl⟩

/-- A step that adopts a process takes the session from created to running. -/
theorem step_adopts (hσ : Reachable s σ) (hstep : Step s σ c r σ')
    (ha : Call.adopts (c, r) = true) :
    σ.host.stateOf s = .created ∧ σ'.host.stateOf s = .running := by
  cases c with
  | finish i =>
    obtain ⟨r', hi, rfl, hhost⟩ := step_finish hstep
    cases r' with
    | error e => simp [Call.adopts] at ha
    | ok p =>
      rcases finish_launched hσ hi with ⟨hc, -, x', hx', hrun, -⟩ | ⟨-, hkill⟩
      · exact ⟨hc, by rw [hhost, Host.stateOf_eq hx', hrun]⟩
      · simp [hkill, Call.adopts] at ha
  | _ => simp [Call.adopts] at ha

/-! ### Along a run -/

variable {t : List (Call T × Except HostError Unit)}

theorem Run.keeps_disposed (hσ : Reachable s σ) (hrun : Run s σ t σ')
    (hd : σ.host.stateOf s = .disposed) : σ'.host.stateOf s = .disposed := by
  induction hrun with
  | nil => exact hd
  | cons hstep _ ih => exact ih (hσ.step hstep) (step_keeps_disposed hσ hstep hd)

/-- Once the session has left created, no step of a run adopts a process. -/
theorem Run.adopts_none (hσ : Reachable s σ) (hrun : Run s σ t σ')
    (hc : σ.host.stateOf s ≠ .created) : t.filter Call.adopts = [] := by
  induction hrun with
  | nil => rfl
  | @cons σ₁ σ₂ _ c₁ r₁ _ hstep _ ih =>
    have hna : Call.adopts (c₁, r₁) = false := by
      cases ha : Call.adopts (c₁, r₁)
      · rfl
      · exact absurd (step_adopts hσ hstep ha).1 hc
    simp [hna, ih (hσ.step hstep) (step_never_creates hσ hstep hc)]

/-- A run adopts at most one process: after the first adoption the session
    is running and never created again. -/
theorem Run.adopts_le_one (hσ : Reachable s σ) (hrun : Run s σ t σ') :
    (t.filter Call.adopts).length ≤ 1 := by
  induction hrun with
  | nil => simp
  | @cons σ₁ σ₂ _ c₁ r₁ t₁ hstep hrest ih =>
    cases ha : Call.adopts (c₁, r₁)
    · simpa [List.filter_cons, ha] using ih (hσ.step hstep)
    · have hrunning := (step_adopts hσ hstep ha).2
      have hnone := Run.adopts_none (hσ.step hstep) hrest (by rw [hrunning]; decide)
      simp [ha, hnone]

/-! ### Starts that end in an error -/

/-- A start refused in its first part leaves the system as it was. -/
theorem begin_error_eq {e : HostError} (hstep : Step s σ .begin (.error e) σ') : σ' = σ := by
  cases hstep with
  | refuse _ => rfl

/-- A start that ends in an error clears the session's starting flag and
    kills the process its launcher returned, if any; nothing else changes. -/
theorem finish_error_host {i : Nat} {e : HostError} (hstep : Step s σ (.finish i) (.error e) σ') :
    σ'.host = σ.host.modifySession s (fun x => { x with starting := false }) ∨
      ∃ c, σ.flights[i]? = some (.launched (.ok c)) ∧
        σ'.host = (σ.host.modifySession s fun x => { x with starting := false }).killChild c := by
  obtain ⟨r', hi, he, hhost⟩ := step_finish hstep
  rw [hhost]
  rcases Host.startFinish_of_error he.symm with h | ⟨c, rfl, h⟩
  · exact .inl h
  · exact .inr ⟨c, hi, h⟩

/-! ### The guarantees of a start -/

/-- Along every run from a fresh session, however its calls interleave:
    at most one start is between its two parts; at most one process is
    adopted; a start whose launcher returned a process either adopts it,
    taking the session from created to running with that process as writer
    and control, or finds the session disposed and kills the process while
    reporting the disposal; a disposed session stays disposed; and a start
    that ends in an error changes nothing but its flag and the process it
    kills. -/
theorem start_exclusive_adopts_once {σ₀ : Console T} (h₀ : Fresh s σ₀) (hrun : Run s σ₀ t σ) :
    σ.flights.length ≤ 1 ∧
    (t.filter Call.adopts).length ≤ 1 ∧
    (∀ i c : Nat, σ.flights[i]? = some (.launched (.ok c)) →
      (σ.host.stateOf s = .created ∧ (σ.host.startFinish s (.ok c)).2 = .ok () ∧
        ∃ x', (σ.host.startFinish s (.ok c)).1.session? s = some x' ∧ x'.state = .running ∧
          x'.writer = some c ∧ x'.control = some c) ∨
      (σ.host.stateOf s = .disposed ∧ σ.host.startFinish s (.ok c) =
        ((σ.host.modifySession s fun x => { x with starting := false }).killChild c,
          .error .sessionDisposed))) ∧
    (σ.host.stateOf s = .disposed → ∀ t' (σ' : Console T), Run s σ t' σ' → σ'.host.stateOf s = .disposed) ∧
    (∀ (e : HostError) (σ' : Console T), Step s σ .begin (.error e) σ' → σ' = σ) ∧
    (∀ (i : Nat) (e : HostError) (σ' : Console T), Step s σ (.finish i) (.error e) σ' →
      σ'.host = σ.host.modifySession s (fun x => { x with starting := false }) ∨
        ∃ c, σ.flights[i]? = some (.launched (.ok c)) ∧
          σ'.host = (σ.host.modifySession s fun x => { x with starting := false }).killChild c) := by
  have hσ : Reachable s σ := (Reachable.init h₀).run hrun
  obtain ⟨x, -, hs⟩ := hσ.inv
  exact ⟨hs.single, Run.adopts_le_one (.init h₀) hrun, fun i c hi => finish_launched hσ hi,
    fun hd t' σ' hrun' => Run.keeps_disposed hσ hrun' hd, fun e σ' hstep => begin_error_eq hstep,
    fun i e σ' hstep => finish_error_host hstep⟩

/-- A console disposed while its launcher runs: the end of the start kills
    the process the launcher returned and reports the disposal, at most one
    start was ever in flight, and the console stays disposed whatever
    follows. -/
theorem start_disposed_while_launching :
    ∃ σ σ', Run 0 ({ host := { sessions := #[Session.create "repl" (LaunchSpec.ofProgram "sh") {}] } } : Console Empty)
        [(.begin, .ok ()), (.dispose, .ok ()), (.launch 0, .ok ())] σ ∧
      Step 0 σ (.finish 0) (.error .sessionDisposed) σ' ∧
      Run 0 ({ host := { sessions := #[Session.create "repl" (LaunchSpec.ofProgram "sh") {}] } } : Console Empty)
        [(.begin, .ok ()), (.dispose, .ok ()), (.launch 0, .ok ()), (.finish 0, .error .sessionDisposed)] σ' ∧
      σ'.flights.length ≤ 1 ∧
      σ'.host = (σ.host.modifySession 0 fun x => { x with starting := false }).killChild 0 ∧
      ∀ t σ'', Run 0 σ' t σ'' → σ''.host.stateOf 0 = .disposed := by
  obtain ⟨σ, hrun, hd, hlaunched⟩ :
      ∃ σ, Run 0 ({ host := { sessions := #[Session.create "repl" (LaunchSpec.ofProgram "sh") {}] } } : Console Empty)
          [(.begin, .ok ()), (.dispose, .ok ()), (.launch 0, .ok ())] σ ∧
        σ.host.stateOf 0 = .disposed ∧ σ.flights[0]? = some (.launched (.ok 0)) :=
    ⟨_, .cons (.begin rfl) (.cons .dispose (.cons (.launch rfl) (.nil _))), rfl, rfl⟩
  have hfresh : Fresh 0 ({ host := { sessions := #[Session.create "repl" (LaunchSpec.ofProgram "sh") {}] } } :
      Console Empty) :=
    fresh_create "repl" (LaunchSpec.ofProgram "sh") {}
  obtain ⟨-, -, hfinish, -, -, -⟩ := start_exclusive_adopts_once hfresh hrun
  -- the console was disposed meanwhile, so the process cannot be adopted
  obtain ⟨-, hkill⟩ := (hfinish 0 0 hlaunched).resolve_left fun h => by rw [hd] at h; cases h.1
  have hstep := Step.finish (s := 0) (r := .ok 0) hlaunched
  rw [show (σ.host.startFinish 0 (.ok 0)).2 = .error .sessionDisposed by rw [hkill]] at hstep
  have hrun' := hrun.snoc hstep
  obtain ⟨hone, -, -, hkeep, -, -⟩ := start_exclusive_adopts_once hfresh hrun'
  refine ⟨σ, _, hrun, hstep, hrun', hone, by rw [Console.after, hkill], hkeep ?_⟩
  exact step_keeps_disposed ((Reachable.init hfresh).run hrun) hstep hd

end Console

end ReplHost
