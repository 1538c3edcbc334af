import ReplHost.Proofs.Host.Desk

/-! # Sessions fit their states on every host

  A host is *fitting* (`Host.Fitting`) when the fields of every session
  fit its lifecycle state (`Session.Fits`) and every reader reads for a
  session that has left `created`. Each operation of the host keeps it:
  the operations on one session change its record only as its state
  allows, and the desk's operations (registries, entries, notifications,
  respawning) reach the sessions only through them.

  The readers matter at the end of a process's output: recording an exit
  code on a created session would give it one before it had a process, and
  only a session with a reader sees the end of an output. A reader is set
  up only when a session adopts its process and leaves `created` for good.
-/

namespace ReplHost

variable {T : Type}

namespace Host

/-- Every session fits its lifecycle state, and the session of every reader
    has left `created`. -/
structure Fitting (h : Host T) : Prop where
  fits : ∀ t x, h.session? t = some x → x.Fits
  read : ∀ t, h.hasPump t = true → ∃ x, h.session? t = some x ∧ x.state ≠ .created

variable {h h' : Host T} {s : Nat} {x : Session}

/-- A host whose sessions all fit, with no reader yet, is fitting. -/
theorem fitting_of_sessions (hs : ∀ x ∈ h.sessions, x.Fits) (hp : h.pumps = []) : Fitting h where
  fits _ x hx := hs x (Array.mem_of_getElem? hx)
  read t ht := by simp [hasPump, hp] at ht

/-- A change that leaves the sessions and the readers keeps a host fitting. -/
theorem Fitting.of_sessions (hf : Fitting h) (hs : h'.sessions = h.sessions) (hp : h'.pumps = h.pumps) :
    Fitting h' where
  fits t x hx := hf.fits t x (by rwa [session?, hs] at hx)
  read t ht := by
    rw [session?, hs]
    exact hf.read t (by rwa [hasPump, hp] at ht)

/-! ### Changing one session -/

/-- Changing session `s` keeps a host fitting when the new record fits and
    has not gone back to `created`. -/
theorem Fitting.modifySession (hf : Fitting h) {f : Session → Session}
    (hfit : ∀ y, h.session? s = some y → (f y).Fits)
    (hstay : ∀ y, h.session? s = some y → y.state ≠ .created → (f y).state ≠ .created) :
    Fitting (h.modifySession s f) where
  fits t x hx := by
    rw [session?_modifySession] at hx
    split at hx
    · rename_i hst
      subst hst
      obtain ⟨y, hy, rfl⟩ := Option.map_eq_some_iff.mp hx
      exact hfit y hy
    · exact hf.fits t x hx
  read t ht := by
    obtain ⟨y, hy, hc⟩ := hf.read t ht
    rw [session?_modifySession]
    split
    · rename_i hst
      subst hst
      exact ⟨f y, by simp [hy], hstay y hy hc⟩
    · exact ⟨y, hy, hc⟩

/-- A change of session `s` that keeps its lifecycle state keeps a host
    fitting when the new record fits. -/
theorem Fitting.modifySession_of_state (hf : Fitting h) {f : Session → Session}
    (hfit : ∀ y, h.session? s = some y → (f y).Fits) (hstate : ∀ y, (f y).state = y.state) :
    Fitting (h.modifySession s f) :=
  hf.modifySession hfit fun y _ hc => by rwa [hstate]

/-- Changing session `s`, whose record is `x`, keeps a host fitting when the
    new record fits and has not gone back to `created`. -/
theorem Fitting.modifySession_at (hf : Fitting h) (hx : h.session? s = some x) {f : Session → Session}
    (hfit : (f x).Fits) (hstay : x.state ≠ .created → (f x).state ≠ .created) :
    Fitting (h.modifySession s f) := by
  refine hf.modifySession (fun y hy => ?_) fun y hy => ?_ <;> rw [hx] at hy <;> cases hy
  · exact hfit
  · exact hstay

theorem Fitting.addSession (hf : Fitting h) (hx : x.Fits) : Fitting (h.addSession x).1 where
  fits t y hy := by
    simp only [Host.addSession, session?, Array.getElem?_push] at hy
    split at hy
    · cases hy
      exact hx
    · exact hf.fits t y hy
  read t ht := by
    obtain ⟨y, hy, hc⟩ := hf.read t ht
    have hlt : t < h.sessions.size := (Array.getElem?_eq_some_iff.mp hy).1
    refine ⟨y, ?_, hc⟩
    simpa [Host.addSession, session?, Array.getElem?_push, Nat.ne_of_lt hlt] using hy

/-! ### Processes -/

theorem Fitting.killChild (hf : Fitting h) (c : Nat) : Fitting (h.killChild c) :=
  hf.of_sessions (killChild_frame h c).1 (killChild_pumps h c)

theorem Fitting.launch (hf : Fitting h) (spec : LaunchSpec) : Fitting (h.launch spec).1 :=
  hf.of_sessions (launch_frame h spec).1 (launch_pumps h spec)

theorem Fitting.writeChild (hf : Fitting h) (c : Nat) (bytes : List UInt8) : Fitting (h.writeChild c bytes) :=
  hf.of_sessions (writeChild_frame h c bytes).1 (writeChild_pumps h c bytes)

theorem takeOutput_frame (h : Host T) (c : Nat) :
    (h.takeOutput c).1.sessions = h.sessions ∧ (h.takeOutput c).1.pumps = h.pumps := by
  unfold takeOutput
  split <;> exact ⟨rfl, rfl⟩

/-! ### Starting -/

theorem Fitting.startBegin {spec : LaunchSpec} (hf : Fitting h) (hb : h.startBegin s = .ok (h', spec)) :
    Fitting h' := by
  obtain ⟨x, hx, hc, -, rfl, -⟩ := startBegin_eq_ok.mp hb
  exact hf.modifySession_at hx ((hf.fits s x hx).claim hc) id

/-- Adopting a process into a created session, its start flag cleared,
    keeps a host fitting: the session runs the process, and the reader set
    up for it reads for a session that has left `created`. -/
theorem Fitting.adopt (hf : Fitting h) (hx : h.session? s = some x) (hc : x.state = .created) (c : Nat)
    (strip : Bool) : Fitting ((h.modifySession s fun y => { y with starting := false }).adopt s c strip) := by
  -- the record the session gets is the one `Session.Fits.adopt` speaks of
  have hx₁ : (h.modifySession s fun y => { y with starting := false }).session? s =
      some { x with starting := false } := by
    simp [hx]
  obtain ⟨b, hb⟩ := session?_adopt_self c strip hx₁
  have hsame : ∀ t, t ≠ s →
      ((h.modifySession s fun y => { y with starting := false }).adopt s c strip).session? t = h.session? t := by
    intro t ht
    rw [session?_adopt, session?_modifySession, if_neg (Ne.symm ht), session?_modifySession,
      if_neg (Ne.symm ht)]
  have hrun : ((h.modifySession s fun y => { y with starting := false }).adopt s c strip).session? s =
      some { ({ x with starting := false }).enter .running with
        writer := some c
        control := some c
        hasPid := b } := hb
  refine ⟨fun t y hy => ?_, fun t ht => ?_⟩
  · by_cases hts : t = s
    · subst hts
      rw [hrun] at hy
      cases hy
      exact (hf.fits t x hx).adopt hc c b
    · rw [hsame t hts] at hy
      exact hf.fits t y hy
  · by_cases hts : t = s
    · subst hts
      exact ⟨_, hrun, by simp [Session.enter]⟩
    · rw [hsame t hts]
      rw [hasPump_adopt, hasPump_modifySession] at ht
      exact hf.read t (by simpa [Ne.symm hts] using ht)

/-- The last part of a start keeps a host fitting, whatever the launch
    returned. -/
theorem Fitting.startFinish (hf : Fitting h) (r : Except HostError Nat) : Fitting (h.startFinish s r).1 := by
  have hclear : Fitting (h.modifySession s fun y => { y with starting := false }) :=
    hf.modifySession_of_state (fun y hy => (hf.fits s y hy).unclaim) fun _ => rfl
  cases r with
  | error e => exact hclear
  | ok c =>
    cases hx : h.session? s with
    | none =>
      have hgone : (h.modifySession s fun y => { y with starting := false }).session? s = none := by
        simp [hx]
      simp only [Host.startFinish, hgone]
      exact hclear.killChild c
    | some x =>
      cases hst : x.state with
      | created =>
        rw [startFinish_created hx hst]
        exact hf.adopt hx hst c _
      | disposed =>
        rw [startFinish_disposed hx hst]
        exact hclear.killChild c
      | running | terminated =>
        simpa [Host.startFinish, hx, hst, SessionState.allows] using hclear

/-- A start keeps a host fitting when its hook does. -/
theorem Fitting.start {β : Type} (hf : Fitting h) (hook : Host T → Host T × β)
    (hhook : ∀ H, Fitting H → Fitting (hook H).1) : Fitting (h.start s hook).1 := by
  unfold Host.start
  split
  · exact hf
  · rename_i h₁ spec hb
    have hlaunch := (hf.startBegin hb).launch spec
    split
    · rename_i h₂ e heq
      rw [heq] at hlaunch
      exact hlaunch.startFinish _
    · rename_i h₂ c heq
      rw [heq] at hlaunch
      exact (hhook h₂ hlaunch).startFinish _

/-! ### Stopping, releasing and input -/

theorem Fitting.terminate (hf : Fitting h) : Fitting (h.terminate s).1 := by
  cases hx : h.session? s with
  | none =>
    have hgone : h.terminate s = (h, .ok ()) := by simp [Host.terminate, stateOf, hx]
    rw [hgone]
    exact hf
  | some x =>
    cases hst : x.state with
    | created => rw [terminate_created hx hst]; exact hf
    | terminated => rw [terminate_stopped hx (.inl hst)]; exact hf
    | disposed => rw [terminate_stopped hx (.inr hst)]; exact hf
    | running =>
      -- a running session controls a process, which is killed
      obtain ⟨c, hc⟩ := Option.isSome_iff_exists.mp ((hf.fits s x hx).running hst).2.1
      rw [terminate_running hx hst hc]
      exact (hf.killChild c).modifySession_at (by rw [session?_killChild, hx]) ((hf.fits s x hx).stop hst)
        fun _ => by simp [Session.enter]

theorem Fitting.dispose (hf : Fitting h) : Fitting (h.dispose s) := by
  unfold Host.dispose
  split
  · exact hf
  · exact hf.modifySession (fun y _ => Session.Fits.release y) fun _ _ _ => by
      simp [Session.release, Session.enter]

/-- Submitting a line only marks the prompt and writes to the process,
    whichever step of the writing fails. -/
theorem Fitting.executeVia (hf : Fitting h) (faults : WriteFaults) (line : String) :
    Fitting (h.executeVia faults s line).1 := by
  have hbegin : Fitting (h.modifySession s fun x => { x with prompt := x.prompt.begin }) :=
    hf.modifySession_of_state (fun y hy => (hf.fits s y hy).withPrompt _) fun _ => rfl
  unfold Host.executeVia
  split
  · exact hf
  · split
    · exact hf
    · split
      · exact hbegin
      · split <;> exact hbegin.writeChild _ _

theorem Fitting.execute (hf : Fitting h) (line : String) : Fitting (h.execute s line).1 :=
  hf.executeVia {} line

/-! ### Output -/

/-- Output to a session not disposed reaches its sink or its buffer. -/
theorem Fitting.emit (hf : Fitting h) (hd : ∀ y, h.session? s = some y → y.state ≠ .disposed)
    (text : String) (kind : OutputKind) : Fitting (h.emit s text kind) := by
  cases hx : h.session? s with
  | none => simpa [Host.emit, hx] using hf
  | some x =>
    cases hk : h.liveSink x with
    | some k =>
      rw [emit_live hx hk]
      exact hf.of_sessions rfl rfl
    | none =>
      rw [emit_buffered hx hk]
      exact hf.modifySession_of_state (fun y hy => (hf.fits s y hy).withBuffer (hd y hy) _) fun _ => rfl

@[simp] theorem emit_pumps (h : Host T) (s : Nat) (text : String) (kind : OutputKind) :
    (h.emit s text kind).pumps = h.pumps := by
  unfold emit
  split
  · rfl
  · split <;> rfl

theorem Fitting.deliver {text : String} (hf : Fitting h) (hd : h.deliver s text = some h') : Fitting h' := by
  cases hx : h.session? s with
  | none => simp [Host.deliver, hx] at hd
  | some x =>
    by_cases hdis : x.state = .disposed
    · rw [deliver_disposed hx hdis] at hd
      cases hd
    · rw [deliver_live hx hdis] at hd
      cases hd
      have hprompt : Fitting (h.modifySession s fun y => { y with prompt := (x.prompt.process text).1 }) :=
        hf.modifySession_of_state (fun y hy => (hf.fits s y hy).withPrompt _) fun _ => rfl
      split
      · exact hprompt
      · refine hprompt.emit (fun y hy => ?_) _ _
        rw [session?_modifySession_self, hx] at hy
        cases hy
        exact hdis

theorem deliver_pumps {text : String} (hd : h.deliver s text = some h') : h'.pumps = h.pumps := by
  cases hx : h.session? s with
  | none => simp [Host.deliver, hx] at hd
  | some x =>
    by_cases hdis : x.state = .disposed
    · rw [deliver_disposed hx hdis] at hd
      cases hd
    · rw [deliver_live hx hdis] at hd
      cases hd
      split <;> simp

theorem Fitting.deliverNonEmpty {text : String} (hf : Fitting h) (hd : h.deliverNonEmpty s text = some h') :
    Fitting h' := by
  unfold Host.deliverNonEmpty at hd
  split at hd
  · cases hd
    exact hf
  · exact hf.deliver hd

theorem deliverNonEmpty_pumps {text : String} (hd : h.deliverNonEmpty s text = some h') : h'.pumps = h.pumps := by
  unfold deliverNonEmpty at hd
  split at hd
  · cases hd
    rfl
  · exact deliver_pumps hd

/-- The end of the output of a session with a reader keeps a host fitting:
    the session has left `created`, so recording its exit code fits. -/
theorem Fitting.outputClosed (hf : Fitting h) (hp : h.hasPump s = true) (code : Option Int) :
    Fitting (h.outputClosed s code) := by
  obtain ⟨x, hx, hc⟩ := hf.read s hp
  by_cases hd : x.state = .disposed
  · rw [outputClosed_disposed hx hd]
    exact hf
  · have hend : Fitting (h.modifySession s (·.outputEnded code)) :=
      hf.modifySession_at hx ((hf.fits s x hx).outputEnded hc code) fun hxc => by
        rwa [ne_eq, (Session.outputEnded_keeps x code).1]
    rw [outputClosed_live hx hd]
    split
    · refine hend.emit (fun y hy => ?_) _ _
      rw [session?_modifySession_self, hx] at hy
      cases hy
      exact fun hd' => hd ((Session.outputEnded_state x code).mp hd')
    · exact hend

theorem outputClosed_pumps (h : Host T) (s : Nat) (code : Option Int) :
    (h.outputClosed s code).pumps = h.pumps := by
  unfold outputClosed
  split
  · rfl
  · split
    · rfl
    · split <;> simp

/-! ### Readers -/

/-- A reader delivering what its process wrote keeps a host fitting, as
    long as the host has a reader for its session. -/
theorem Fitting.runPump (hf : Fitting h) (pump : Pump) (hp : h.hasPump pump.session = true) :
    Fitting (h.runPump pump).1 ∧ (h.runPump pump).1.pumps = h.pumps := by
  unfold Host.runPump
  split
  · exact ⟨hf, rfl⟩
  · have ht := hf.of_sessions (takeOutput_frame h pump.process).1 (takeOutput_frame h pump.process).2
    have hpt := (takeOutput_frame h pump.process).2
    rcases htake : h.takeOutput pump.process with ⟨h₁, reads, closed⟩
    rw [htake] at ht hpt
    dsimp only at ht hpt ⊢
    split
    · exact ⟨ht, hpt⟩
    · rename_i h₂ dec hfed
      -- the reads go to the session one by one; each keeps the host fitting and the readers
      obtain ⟨h₁', hh₁, hfit, hpumps⟩ := foldl_option_chain
        (R := fun H H' => (Fitting H → Fitting H') ∧ H'.pumps = H.pumps)
        (fun _ => ⟨id, rfl⟩) (fun h₁₂ h₂₃ => ⟨h₂₃.1 ∘ h₁₂.1, h₂₃.2.trans h₁₂.2⟩) _
        (fun a b h' hab => by
          rcases a with ⟨_ | h₀, dec⟩
          · cases hab
          · exact ⟨h₀, rfl, fun hf₀ => hf₀.deliverNonEmpty hab, deliverNonEmpty_pumps hab⟩)
        _ _ _ (congrArg Prod.fst hfed)
      cases hh₁
      have hf₂ := hfit ht
      have hp₂ : h₂.pumps = h.pumps := hpumps.trans hpt
      split
      · exact ⟨hf₂, hp₂⟩
      · split
        · exact ⟨hf₂, hp₂⟩
        · rename_i h₃ hd
          have hp₃ : h₃.pumps = h.pumps := (deliverNonEmpty_pumps hd).trans hp₂
          refine ⟨(hf₂.deliverNonEmpty hd).outputClosed ?_ _, (outputClosed_pumps _ _ _).trans hp₃⟩
          rw [hasPump, hp₃]
          exact hp

/-- A reader hands itself back for the same session. -/
theorem runPump_session (h : Host T) (pump : Pump) : (h.runPump pump).2.session = pump.session := by
  unfold runPump
  split
  · rfl
  · dsimp only
    split
    · rfl
    · split
      · rfl
      · split <;> rfl

/-- Letting every reader deliver keeps a host fitting: the readers run one
    after another on a host with the same readers, and those handed back
    read for the same sessions. -/
theorem Fitting.settle (hf : Fitting h) : Fitting h.settle := by
  unfold Host.settle
  split
  rename_i h' ps hfold
  -- along the fold the host stays fitting with the same readers, and each reader handed back reads for
  -- the session of one of them
  obtain ⟨hf', hp', hq⟩ : Fitting (h', ps).1 ∧ (h', ps).1.pumps = h.pumps ∧
      ∀ q ∈ (h', ps).2, h.hasPump q.session = true := by
    rw [← hfold]
    refine List.foldlRecOn (motive := fun acc : Host T × List Pump =>
        Fitting acc.1 ∧ acc.1.pumps = h.pumps ∧ ∀ q ∈ acc.2, h.hasPump q.session = true)
      h.pumps _ ⟨hf, rfl, by simp⟩ fun acc ⟨hfa, hpa, hqa⟩ p hp => ?_
    have hph : h.hasPump p.session = true := List.any_eq_true.mpr ⟨p, hp, by simp⟩
    obtain ⟨hf₁, hp₁⟩ := hfa.runPump p (by rw [hasPump, hpa]; exact hph)
    refine ⟨hf₁, hp₁.trans hpa, fun q hq => ?_⟩
    rcases List.mem_append.mp hq with hq | hq
    · exact hqa q hq
    · rw [List.mem_singleton.mp hq, runPump_session]
      exact hph
  refine ⟨hf'.fits, fun t ht => hf'.read t ?_⟩
  obtain ⟨q, hq', rfl⟩ : ∃ q ∈ ps, q.session = t := by simpa [hasPump] using ht
  rw [hasPump, hp']
  exact hq q hq'

/-! ### Routing output -/

theorem Fitting.attach (hf : Fitting h) (k : Nat) : Fitting (h.attach s k) := by
  unfold Host.attach
  split
  · exact hf
  · rename_i x hx
    split
    · exact hf
    · rename_i hd
      dsimp only [OutputBuffer.drain]
      -- the buffer is flushed with the sink cleared, then the sink is set; the state stays
      have hx₁ : (h.modifySession s fun y => { y with sink := none, buffer := x.buffer.drain.2 }).session? s =
          some { x with sink := none, buffer := x.buffer.drain.2 } := by
        simp [hx]
      have hf₁ : Fitting (h.modifySession s fun y => { y with sink := none, buffer := x.buffer.drain.2 }) :=
        hf.modifySession_at hx ((hf.fits s x hx).withSink hd none _) id
      have hf₂ := hf₁.of_sessions (foldl_writeSink_frame k x.buffer.chunks _).1
        (foldl_writeSink_frame k x.buffer.chunks _).2.1
      exact hf₂.modifySession_at (by rw [session?_foldl_writeSink, hx₁])
        ((hf₁.fits s _ hx₁).withSink hd (some k) _) id

/-! ### The desk -/

theorem Fitting.setRegistry (hf : Fitting h) (which : RegistryChoice) (g : Registry) :
    Fitting (h.setRegistry which g) := by
  cases which <;> exact hf.of_sessions rfl rfl

theorem Fitting.setEntry (hf : Fitting h) (k : Nat) (f : Entry → Entry) : Fitting (h.setEntry k f) :=
  hf.of_sessions rfl rfl

/-- Installing a session in a registry disposes at most the session
    registered under its name before. -/
theorem Fitting.install (hf : Fitting h) (which : RegistryChoice) (s : Nat) : Fitting (h.install which s) := by
  unfold Host.install
  split
  · apply Fitting.setRegistry
    split
    · split
      · exact hf.dispose
      · exact hf
    · exact hf
  · exact hf

theorem Fitting.removeFrom (hf : Fitting h) (which : RegistryChoice) (name : String) :
    Fitting (h.removeFrom which name).1 := by
  unfold Host.removeFrom
  split
  · split
    · exact (hf.setRegistry _ _).dispose
    · exact hf
  · exact hf

/-- An entry's hook stops its session and disposes it. -/
theorem Fitting.runHook (hf : Fitting h) (e : Entry) : Fitting (h.runHook e) := by
  unfold Host.runHook
  split
  · exact hf
  · split
    · exact hf
    · rename_i t _
      have ht := hf.terminate (s := t)
      dsimp only
      split
      · exact ht.dispose
      · split
        · exact ht.removeFrom _ _
        · exact ht.dispose

/-- A notification keeps a host fitting when respawning does. -/
theorem Fitting.notifyWith {r : Host T → Host T} (hf : Fitting h) (hr : ∀ H, Fitting H → Fitting (r H)) :
    Fitting (notifyWith r h) := by
  unfold Host.notifyWith
  split
  · exact hr h hf
  · exact hf

theorem Fitting.removeEntry {r : Host T → Host T} (hf : Fitting h) (hr : ∀ H, Fitting H → Fitting (r H))
    (name : String) : Fitting (removeEntry r h name).1 := by
  unfold Host.removeEntry
  split
  · exact hf
  · rename_i e k _
    dsimp only [Host.disposeDetached]
    refine Fitting.notifyWith (Fitting.runHook ?_ e) hr
    exact hf.of_sessions rfl rfl

theorem Fitting.setVisible {r : Host T → Host T} (hf : Fitting h) (hr : ∀ H, Fitting H → Fitting (r H))
    (on : Bool) : Fitting (setVisible r h on) := by
  unfold Host.setVisible
  refine Fitting.notifyWith ?_ hr
  exact hf.of_sessions rfl rfl

/-- Putting a session into the entry of its name installs it, disposes the
    session the entry showed if it was another, and routes the session's
    output to the entry. -/
theorem Fitting.installContent (hf : Fitting h) (r : Host T → Host T) (s : Nat) :
    Fitting (installContent r h s).1 := by
  have hi := hf.install .controller s
  unfold Host.installContent
  dsimp only
  split
  · -- the entry of the name shows the session; one it showed before is disposed if it is another
    refine Fitting.of_sessions (Fitting.attach (Fitting.setEntry ?_ _ _) _) rfl rfl
    split
    · split
      · exact (hi.setEntry _ _).dispose
      · exact hi.setEntry _ _
    · exact hi.setEntry _ _
  · -- a new entry of the name shows the session; adding it never respawns
    rw [addEntry_eq]
    refine Fitting.of_sessions (Fitting.attach (Fitting.setEntry ?_ _ _) _) rfl rfl
    exact hi.of_sessions rfl rfl

theorem Fitting.bind (hf : Fitting h) (r : Host T → Host T) (s : Nat) : Fitting (bind r h s).1 := by
  have hi := hf.installContent r s
  unfold Host.bind
  split
  rename_i H name hput
  rw [hput] at hi
  split
  · split
    · exact hi
    · exact hi.of_sessions rfl rfl
  · exact hi

/-- Launching a console adds a session that fits, as every created one
    does, then starts it and binds it, or disposes it when it does not
    start. -/
theorem Fitting.launchInto (hf : Fitting h) (r : Host T → Host T) : Fitting (launchInto r h).1 := by
  unfold Host.launchInto
  split
  · exact hf.of_sessions rfl rfl
  · generalize hy : Session.create h.nextName h.factory.spec h.factory.options = y
    have hstart := (hf.addSession (hy ▸ Session.fits_create _ _ _)).start (s := h.sessions.size)
      (fun h => (h, ())) fun _ hH => hH
    dsimp only [Host.addSession] at hstart ⊢
    rcases hst : Host.start { h with sessions := h.sessions.push y } h.sessions.size (fun h => (h, ()))
      with ⟨h₂, u, _ | _⟩ <;> rw [hst] at hstart <;> dsimp only at hstart ⊢
    · exact hstart.dispose
    · exact hstart.bind r _

/-- Respawning launches a console at most; it keeps a host fitting. -/
theorem fitting_respawn (H : Host T) (hH : Fitting H) : Fitting (respawn H) := by
  unfold respawn respawnDepth respawner
  exact hH.launchInto _

theorem Fitting.showSession (hf : Fitting h) (s : Nat) : Fitting (h.showSession s).1 := by
  unfold Host.showSession
  split
  · exact hf.bind respawn s
  · exact hf

theorem Fitting.launchNew (hf : Fitting h) : Fitting h.launchNew.1 := by
  unfold Host.launchNew
  split
  · exact hf.launchInto respawn
  · exact hf

end Host

end ReplHost
