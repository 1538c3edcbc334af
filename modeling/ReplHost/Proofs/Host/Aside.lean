import ReplHost.Proofs.Session.Lifecycle

/-! # Calls on sessions leave the console desk alone

  The activation controller, its registry and the container form the
  console *desk*. Calls on a session (start, stop, dispose, a process
  exiting, attaching output) never touch the desk, add no sink, and let
  sessions only move on: no session is removed or renamed, and a disposed
  one stays disposed (`Host.Aside`). Each such call is shown to be aside,
  from the primitive changes it is made of.
-/

namespace ReplHost

variable {T : Type}

theorem Session.outputEnded_name (x : Session) (code : Option Int) :
    (x.outputEnded code).name = x.name := by
  by_cases hr : x.state = .running
  · rw [Session.outputEnded_running hr]
    rfl
  · rw [Session.outputEnded_not_running hr]

namespace Host

variable {h h' h'' : Host T} {s t : Nat} {x : Session}

/-- From `h` to `h'`, sessions only move on: none is removed or renamed,
    and a disposed one stays disposed. -/
def Evolves (h h' : Host T) : Prop :=
  ∀ t x, h.session? t = some x →
    ∃ x', h'.session? t = some x' ∧ x'.name = x.name ∧ (x.state = .disposed → x'.state = .disposed)

theorem Evolves.refl (h : Host T) : Evolves h h := fun _ x hx => ⟨x, hx, rfl, id⟩

theorem Evolves.trans (h₁ : Evolves h h') (h₂ : Evolves h' h'') : Evolves h h'' := by
  intro t x hx
  obtain ⟨x', hx', hn, hd⟩ := h₁ t x hx
  obtain ⟨x'', hx'', hn', hd'⟩ := h₂ t x' hx'
  exact ⟨x'', hx'', hn'.trans hn, hd' ∘ hd⟩

theorem Evolves.of_sessions (hs : h'.sessions = h.sessions) : Evolves h h' :=
  fun _ x hx => ⟨x, by simpa [session?, hs] using hx, rfl, id⟩

/-- A disposed session that exists stays disposed. -/
theorem Evolves.stateOf (he : Evolves h h') (hx : h.session? t = some x)
    (hd : h.stateOf t = .disposed) : h'.stateOf t = .disposed := by
  obtain ⟨x', hx', -, hd'⟩ := he t x hx
  rw [stateOf_eq hx'] at ⊢
  rw [stateOf_eq hx] at hd
  exact hd' hd

/-- Changing session `s` lets sessions move on when the change keeps the
    name of the record `s` has and keeps it disposed. -/
theorem evolves_modifySession {f : Session → Session}
    (hf : ∀ y, h.session? s = some y → (f y).name = y.name ∧ (y.state = .disposed → (f y).state = .disposed)) :
    Evolves h (h.modifySession s f) := by
  intro t x hx
  rw [session?_modifySession]
  split
  · rename_i hst
    subst hst
    obtain ⟨hn, hd⟩ := hf x hx
    exact ⟨f x, by simp [hx], hn, hd⟩
  · exact ⟨x, hx, rfl, id⟩

/-- A change of the host that keeps the bridge, adds sinks at most, and
    lets the sessions there are only move on, adding none. -/
structure Frame (h h' : Host T) : Prop where
  bridged : h'.bridged = h.bridged
  sinks : h.sinks.size ≤ h'.sinks.size
  count : h'.sessions.size = h.sessions.size
  sessions : Evolves h h'

theorem Frame.refl (h : Host T) : Frame h h := ⟨rfl, Nat.le_refl _, rfl, .refl h⟩

theorem Frame.trans (h₁ : Frame h h') (h₂ : Frame h' h'') : Frame h h'' :=
  ⟨h₂.bridged.trans h₁.bridged, Nat.le_trans h₁.sinks h₂.sinks, h₂.count.trans h₁.count,
    h₁.sessions.trans h₂.sessions⟩

/-- A session disposed, or never made, stays so. -/
theorem Frame.stateOf (hf : Frame h h') (hd : h.stateOf t = .disposed) : h'.stateOf t = .disposed := by
  cases hx : h.session? t with
  | some x => exact hf.sessions.stateOf hx hd
  | none =>
    have hsize : h'.sessions.size ≤ t := by
      rw [hf.count]
      simpa [session?] using hx
    simp [Host.stateOf, session?, hsize]

/-- A change of the host that also leaves the controller and the container
    as they are. -/
structure Aside (h h' : Host T) : Prop where
  controller : h'.controller = h.controller
  container : h'.container = h.container
  frame : Frame h h'

theorem Aside.refl (h : Host T) : Aside h h := ⟨rfl, rfl, .refl h⟩

theorem Aside.trans (h₁ : Aside h h') (h₂ : Aside h' h'') : Aside h h'' :=
  ⟨h₂.controller.trans h₁.controller, h₂.container.trans h₁.container, h₁.frame.trans h₂.frame⟩

theorem aside_modifySession {f : Session → Session}
    (hf : ∀ y, h.session? s = some y → (f y).name = y.name ∧ (y.state = .disposed → (f y).state = .disposed)) :
    Aside h (h.modifySession s f) :=
  ⟨rfl, rfl, rfl, Nat.le_refl _, by simp [modifySession], evolves_modifySession hf⟩

/-- A change of a session that keeps its name and lifecycle state is aside. -/
theorem aside_modifySession_of_state {f : Session → Session}
    (hf : ∀ y, (f y).name = y.name ∧ (f y).state = y.state) : Aside h (h.modifySession s f) :=
  aside_modifySession fun y _ => ⟨(hf y).1, fun hd => (hf y).2.trans hd⟩

theorem aside_of_sessions (hc : h'.controller = h.controller) (hk : h'.container = h.container)
    (hb : h'.bridged = h.bridged) (hsinks : h'.sinks = h.sinks) (hs : h'.sessions = h.sessions) :
    Aside h h' :=
  ⟨hc, hk, hb, Nat.le_of_eq (congrArg Array.size hsinks.symm), by rw [hs], .of_sessions hs⟩

theorem aside_killChild (c : Nat) : Aside h (h.killChild c) := by
  unfold killChild
  split <;> exact aside_of_sessions rfl rfl rfl rfl rfl

theorem aside_launch (spec : LaunchSpec) : Aside h (h.launch spec).1 := by
  dsimp only [launch]
  split
  · exact aside_of_sessions rfl rfl rfl rfl rfl
  · split
    · exact aside_of_sessions rfl rfl rfl rfl rfl
    · split <;> exact aside_of_sessions rfl rfl rfl rfl rfl

theorem aside_writeSink (k : Nat) (text : String) (kind : OutputKind) :
    Aside h (h.writeSink k text kind) :=
  ⟨rfl, rfl, rfl, by simp, rfl, .of_sessions rfl⟩

theorem aside_foldl_writeSink (k : Nat) (cs : List Chunk) (h : Host T) :
    Aside h (cs.foldl (fun h c => h.writeSink k c.text c.kind) h) := by
  induction cs generalizing h with
  | nil => exact .refl h
  | cons c cs ih => exact (aside_writeSink k c.text c.kind).trans (ih _)

theorem aside_startBegin {spec : LaunchSpec} (hb : h.startBegin s = .ok (h', spec)) : Aside h h' := by
  obtain ⟨-, -, -, -, rfl, -⟩ := startBegin_eq_ok.mp hb
  exact aside_modifySession_of_state fun _ => ⟨rfl, rfl⟩

/-- Adopting a process is aside while the session is not disposed. -/
theorem aside_adopt (c : Nat) (strip : Bool) (hs : ∀ y, h.session? s = some y → y.state ≠ .disposed) :
    Aside h (h.adopt s c strip) := by
  refine ⟨rfl, rfl, rfl, Nat.le_refl _, by simp [adopt, modifySession], ?_⟩
  intro t x hx
  rw [session?_adopt]
  apply evolves_modifySession _ t x hx
  intro y hy
  exact ⟨rfl, fun hd => absurd hd (hs y hy)⟩

/-- The last part of a start adopts a process only into a session that is
    not disposed. -/
theorem aside_startFinish (r : Except HostError Nat) : Aside h (h.startFinish s r).1 := by
  have hclear : Aside h (h.modifySession s fun y => { y with starting := false }) :=
    aside_modifySession_of_state fun _ => ⟨rfl, rfl⟩
  dsimp only [startFinish]
  split
  · exact hclear
  · split
    · exact hclear.trans (aside_killChild _)
    · rename_i x hx
      split
      · exact hclear.trans (aside_killChild _)
      · rename_i hd
        split
        · exact hclear.trans (aside_adopt _ _ fun y hy => by
            rw [hx] at hy
            cases hy
            exact hd)
        · exact hclear

/-- A start is aside when its hook is. -/
theorem aside_start {β : Type} (hook : Host T → Host T × β) (hhook : ∀ h, Aside h (hook h).1) :
    Aside h (h.start s hook).1 := by
  unfold start
  split
  · exact .refl h
  · rename_i h₁ spec hb
    have hlaunch := aside_launch (h := h₁) spec
    split
    · rename_i h₂ e heq
      rw [heq] at hlaunch
      have hfinish := aside_startFinish (h := h₂) (s := s) (.error e)
      exact (aside_startBegin hb).trans (hlaunch.trans hfinish)
    · rename_i h₂ c heq
      rw [heq] at hlaunch
      have hfinish := aside_startFinish (h := (hook h₂).1) (s := s) (.ok c)
      exact (aside_startBegin hb).trans (hlaunch.trans ((hhook h₂).trans hfinish))

/-- Stopping a session is aside: only a running one changes, and it moves
    to terminated. -/
theorem aside_terminate : Aside h (h.terminate s).1 := by
  have hstop : ∀ h₁ : Host T, h₁.stateOf s = .running → Aside h₁
      (h₁.modifySession s fun x => Session.enter { x with writer := none } .terminated) := by
    intro h₁ hr
    refine aside_modifySession fun y hy => ⟨rfl, fun hd => ?_⟩
    rw [stateOf_eq hy, hd] at hr
    cases hr
  unfold terminate
  split
  · exact .refl h
  · exact .refl h
  · exact .refl h
  · rename_i hr
    split
    · exact (aside_killChild _).trans (hstop _ (by rw [← hr]; simp [stateOf]))
    · exact hstop _ hr

theorem aside_dispose : Aside h (h.dispose s) := by
  unfold dispose
  split
  · exact .refl h
  · exact aside_modifySession fun y _ => ⟨rfl, fun _ => rfl⟩

theorem aside_emit (text : String) (kind : OutputKind) : Aside h (h.emit s text kind) := by
  unfold emit
  split
  · exact .refl h
  · split
    · exact aside_writeSink _ _ _
    · exact aside_modifySession_of_state fun _ => ⟨rfl, rfl⟩

/-- The end of a process's output is aside: it never disposes or revives a
    session. -/
theorem aside_outputClosed (code : Option Int) : Aside h (h.outputClosed s code) := by
  have hend : Aside h (h.modifySession s (·.outputEnded code)) :=
    aside_modifySession fun y _ => ⟨Session.outputEnded_name y code,
      fun hd => (Session.outputEnded_state y code).mpr hd⟩
  unfold outputClosed
  split
  · exact .refl h
  · split
    · exact .refl h
    · split
      · exact hend.trans (aside_emit _ _)
      · exact hend

theorem aside_attach (k : Nat) : Aside h (h.attach s k) := by
  unfold attach
  split
  · exact .refl h
  · split
    · exact .refl h
    · dsimp only [OutputBuffer.drain]
      refine ((aside_modifySession_of_state ?_).trans (aside_foldl_writeSink _ _ _)).trans
        (aside_modifySession_of_state ?_) <;> exact fun _ => ⟨rfl, rfl⟩

theorem aside_writeChild (c : Nat) (bytes : List UInt8) : Aside h (h.writeChild c bytes) := by
  unfold writeChild
  split <;> exact aside_of_sessions rfl rfl rfl rfl rfl

/-- Submitting a line only marks the prompt and writes to the process,
    whichever step of the writing fails. -/
theorem aside_executeVia (faults : WriteFaults) (line : String) : Aside h (h.executeVia faults s line).1 := by
  have hbegin : Aside h (h.modifySession s fun x => { x with prompt := x.prompt.begin }) :=
    aside_modifySession_of_state fun _ => ⟨rfl, rfl⟩
  unfold executeVia
  split
  · exact .refl h
  · split
    · exact .refl h
    · split
      · exact hbegin
      · -- the steps before the failing one have written to the process
        split <;> exact hbegin.trans (aside_writeChild _ _)

theorem aside_execute (line : String) : Aside h (h.execute s line).1 := aside_executeVia {} line

/-! ### Readers -/

theorem aside_takeOutput (c : Nat) : Aside h (h.takeOutput c).1 := by
  unfold takeOutput
  split <;> exact aside_of_sessions rfl rfl rfl rfl rfl

theorem aside_deliver {text : String} (hd : h.deliver s text = some h') : Aside h h' := by
  cases hx : h.session? s with
  | none => simp [deliver, hx] at hd
  | some x =>
    by_cases hdis : x.state = .disposed
    · rw [deliver_disposed hx hdis] at hd
      cases hd
    · rw [deliver_live hx hdis] at hd
      cases hd
      have hprompt : Aside h (h.modifySession s fun y => { y with prompt := (x.prompt.process text).1 }) :=
        aside_modifySession_of_state fun _ => ⟨rfl, rfl⟩
      split
      · exact hprompt
      · exact hprompt.trans (aside_emit _ _)

theorem aside_deliverNonEmpty {text : String} (hd : h.deliverNonEmpty s text = some h') : Aside h h' := by
  unfold deliverNonEmpty at hd
  split at hd
  · cases hd
    exact .refl h
  · exact aside_deliver hd

/-- A fold that carries a host while it has one relates its first host to
    its last by a reflexive and transitive relation that relates each step's
    host to the next. -/
theorem foldl_option_chain {α β : Type} {R : Host T → Host T → Prop} (hrefl : ∀ h, R h h)
    (htrans : ∀ {h₁ h₂ h₃ : Host T}, R h₁ h₂ → R h₂ h₃ → R h₁ h₃)
    (f : Option (Host T) × α → β → Option (Host T) × α)
    (hf : ∀ a b h', (f a b).1 = some h' → ∃ h₁, a.1 = some h₁ ∧ R h₁ h') :
    ∀ (l : List β) (a : Option (Host T) × α) (h' : Host T), (l.foldl f a).1 = some h' →
      ∃ h₁, a.1 = some h₁ ∧ R h₁ h'
  | [], _, h', ha => ⟨h', ha, hrefl h'⟩
  | b :: l, a, h', ha => by
    obtain ⟨h₂, hb, ha₂⟩ := foldl_option_chain hrefl htrans f hf l (f a b) h' ha
    obtain ⟨h₁, ha₁, ha₁₂⟩ := hf a b h₂ hb
    exact ⟨h₁, ha₁, htrans ha₁₂ ha₂⟩

/-- A fold that carries a host, each step aside. -/
theorem aside_foldl {α β : Type} (f : Host T × α → β → Host T × α) (hf : ∀ a b, Aside a.1 (f a b).1) :
    ∀ (l : List β) (a b : Host T × α), l.foldl f a = b → Aside a.1 b.1
  | [], a, _, rfl => .refl a.1
  | c :: l, a, b, hb => (hf a c).trans (aside_foldl f hf l (f a c) b hb)

/-- A reader delivering what its process wrote, and the end of the output,
    leaves the desk alone. -/
theorem aside_runPump (pump : Pump) : Aside h (h.runPump pump).1 := by
  unfold runPump
  split
  · exact .refl h
  · have ht := aside_takeOutput (h := h) pump.process
    rcases htake : h.takeOutput pump.process with ⟨h₁, reads, closed⟩
    rw [htake] at ht
    dsimp only at ht ⊢
    split
    · exact ht
    · rename_i h₂ dec hfed
      obtain ⟨h₁', hh₁, ha⟩ := foldl_option_chain Aside.refl Aside.trans _ (fun a b h' hab => by
          rcases a with ⟨_ | h₀, dec⟩
          · cases hab
          · exact ⟨h₀, rfl, aside_deliverNonEmpty hab⟩) _ _ _ (congrArg Prod.fst hfed)
      cases hh₁
      have ha₂ := ht.trans ha
      split
      · exact ha₂
      · split
        · exact ha₂
        · rename_i h₃ hd
          exact (ha₂.trans (aside_deliverNonEmpty hd)).trans (aside_outputClosed _)

/-- Letting every reader deliver leaves the desk alone. -/
theorem aside_settle : Aside h h.settle := by
  unfold settle
  split
  rename_i h' ps hfold
  exact (aside_foldl _ (fun a p => by exact aside_runPump (h := a.1) p) _ _ _ hfold).trans
    (aside_of_sessions rfl rfl rfl rfl rfl)

end Host

end ReplHost
