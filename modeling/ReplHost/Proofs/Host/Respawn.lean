import ReplHost.Proofs.Host.Calls

/-! # Respawning on notifications

  The container notifies its subscriber of every change of visibility or
  content: when it is shown or hidden, when an entry is added, and when an
  entry is closed (after the entry's hook ran). A bound controller answers
  each notification with its handler, `notifyWith respawn`. On a desk in
  order (`Host.Orderly`, which every desk the calls reach is in, and every
  state they notify in), the handler (`Host.Answers`):

  - attempts a launch exactly when respawning is on and the container is
    shown with no entry, and changes nothing otherwise;
  - when the launch succeeds, leaves exactly one entry, showing the new
    session, started and running, registered under the entry's name,
    selected and hooked; the notification of adding that entry finds the
    container no longer empty, so exactly one session is made;
  - when the launch fails, in the factory or in starting the session,
    leaves the container and the controller as they were, so the handler
    returns to the container with nothing changed that the next
    notification reads, and that notification tries again.

  Main statement: `bound_controller_answers`.
-/

namespace ReplHost

variable {T : Type}

namespace Host

variable {known : List Nat} {h h' H H' : Host T} {c : Controller} {s p : Nat} {r : Host T → Host T}

/-! ### The state of the session being bound -/

theorem stateOf_of_sessions (hs : h'.sessions = h.sessions) (t : Nat) : h'.stateOf t = h.stateOf t := by
  simp [stateOf, session?, hs]

@[simp] theorem stateOf_setEntry (k : Nat) (f : Entry → Entry) (t : Nat) :
    (h.setEntry k f).stateOf t = h.stateOf t := rfl

@[simp] theorem stateOf_setRegistry (which : RegistryChoice) (g : Registry) (t : Nat) :
    (h.setRegistry which g).stateOf t = h.stateOf t := by
  cases which <;> rfl

@[simp] theorem stateOf_addEntry (r : Host T → Host T) (n : String) (o : Option Nat) (t : Nat) :
    (addEntry r h n o).1.stateOf t = h.stateOf t := by
  rw [addEntry_eq]
  rfl

theorem stateOf_dispose_ne (hne : p ≠ s) : (h.dispose p).stateOf s = h.stateOf s := by
  unfold dispose
  split
  · rfl
  · simp [stateOf, session?_modifySession, hne]

/-- Attaching output to a session leaves its lifecycle state. -/
theorem stateOf_attach_self (k : Nat) : (h.attach s k).stateOf s = h.stateOf s := by
  cases hx : h.session? s with
  | none => simp [attach, hx]
  | some x =>
    by_cases hd : x.state = .disposed
    · rw [attach_disposed hx hd]
    · rw [stateOf_eq (session?_attach hx hd), stateOf_eq hx]

/-- Installing a session disposes only a different one. -/
theorem install_stateOf_self (which : RegistryChoice) : (h.install which s).stateOf s = h.stateOf s := by
  unfold install
  split
  · rename_i g x _ _
    cases hp : g.find? x.name with
    | none => simp
    | some p =>
      by_cases hps : p = s
      · simp [hps]
      · simpa [hps] using stateOf_dispose_ne hps
  · rfl

/-- Putting a session into the entry of its name leaves its lifecycle
    state: only other sessions are disposed. -/
theorem installContent_stateOf_self (r : Host T → Host T) : (installContent r h s).1.stateOf s = h.stateOf s := by
  have h₀s := install_stateOf_self (h := h) (s := s) .controller
  unfold installContent
  dsimp only
  rw [stateOf_withContainer, stateOf_attach_self, stateOf_setEntry]
  split
  · -- an existing entry: a different session it showed is disposed
    split
    · split
      · rename_i hne
        rw [stateOf_dispose_ne hne, stateOf_setEntry, h₀s]
      · rw [stateOf_setEntry, h₀s]
    · rw [stateOf_setEntry, h₀s]
  · rw [stateOf_addEntry, h₀s]

/-- Binding a session leaves its lifecycle state. -/
theorem bind_stateOf_self (r : Host T → Host T) : (bind r h s).1.stateOf s = h.stateOf s := by
  have hic := installContent_stateOf_self (h := h) (s := s) r
  unfold bind
  split
  rename_i H name heq
  rw [heq] at hic
  split
  · split
    · exact hic
    · exact (stateOf_of_sessions rfl s).trans hic
  · exact hic

/-- A start that succeeds leaves the session running. -/
theorem start_ok_running {b : Option Unit} (hst : h.start s (fun h => (h, ())) = (h', b, .ok ())) :
    h'.stateOf s = .running := by
  unfold start at hst
  split at hst
  · simp at hst
  · rename_i h₁ spec hbegin
    obtain ⟨x, hx, hcreated, -, rfl, rfl⟩ := startBegin_eq_ok.mp hbegin
    split at hst
    · simp at hst
    · rename_i h₁' c hl
      -- the launch leaves the session as the first part marked it
      have hx' : h₁'.session? s = some { x with starting := true } := by
        have hh : h₁' = ((h.modifySession s fun x => { x with starting := true }).launch x.spec).1 := by
          rw [hl]
        rw [hh, session?_launch, session?_modifySession_self, hx]
        rfl
      dsimp only at hst
      rw [startFinish_created hx' hcreated] at hst
      simp only [Prod.mk.injEq] at hst
      obtain ⟨rfl, -, -⟩ := hst
      have hy : (h₁'.modifySession s fun x => { x with starting := false }).session? s =
          some { x with starting := false } := by
        rw [session?_modifySession_self, hx']
        rfl
      obtain ⟨_, hz⟩ := session?_adopt_self c { x with starting := true }.options.stripAnsi hy
      rw [stateOf_eq hz]
      rfl

/-! ### Launch attempts -/

/-- What a launch attempt can do: fail in the factory, which only clears
    the factory's failure; make a session and fail to start it, disposing
    it; or make a session, start it and bind it. -/
theorem launchInto_cases {res : Except Failure Nat} (hl : launchInto r h = (h', res)) :
    (h.factory.panicNext = true ∧ h' = { h with factory := { h.factory with panicNext := false } } ∧
      res = .error (.panic factoryFailure)) ∨
    (∃ h₂ b e, (h.addSession (Session.create h.nextName h.factory.spec h.factory.options)).1.start
        h.sessions.size (fun h => (h, ())) = (h₂, b, .error e) ∧
      h' = h₂.dispose h.sessions.size ∧ res = .error (.error e)) ∨
    (∃ h₂ b, (h.addSession (Session.create h.nextName h.factory.spec h.factory.options)).1.start
        h.sessions.size (fun h => (h, ())) = (h₂, b, .ok ()) ∧
      h' = (bind r h₂ h.sessions.size).1 ∧ res = .ok h.sessions.size) := by
  unfold launchInto at hl
  split at hl
  · simp only [Prod.mk.injEq] at hl
    exact .inl ⟨‹_›, hl.1.symm, hl.2.symm⟩
  · generalize Session.create h.nextName h.factory.spec h.factory.options = y at hl ⊢
    have hadd : h.addSession y = ((h.addSession y).1, h.sessions.size) := rfl
    rw [hadd] at hl
    dsimp only at hl
    rcases hst : (h.addSession y).1.start h.sessions.size (fun h => (h, ())) with ⟨h₂, b, _ | _⟩ <;>
      rw [hst] at hl <;> simp only [Prod.mk.injEq] at hl
    · exact .inr (.inl ⟨h₂, b, _, rfl, hl.1.symm, hl.2.symm⟩)
    · exact .inr (.inr ⟨h₂, b, rfl, hl.1.symm, hl.2.symm⟩)

/-- A failed launch attempt leaves the container, the controller and the
    bridge as they were. -/
theorem launchInto_error {f : Failure} (hl : launchInto r h = (h', .error f)) :
    h'.container = h.container ∧ h'.controller = h.controller ∧ h'.bridged = h.bridged := by
  rcases launchInto_cases hl with ⟨-, rfl, -⟩ | ⟨h₂, b, e, hst, rfl, -⟩ | ⟨_, _, _, _, hres⟩
  · exact ⟨rfl, rfl, rfl⟩
  · -- the session made and disposed lies beside the desk
    have ha := aside_start (h := (h.addSession (Session.create h.nextName h.factory.spec
      h.factory.options)).1) (s := h.sessions.size) (fun h => (h, ())) fun h => .refl h
    rw [hst] at ha
    have had := ha.trans (aside_dispose (s := h.sessions.size))
    exact ⟨had.container, had.controller, had.frame.bridged⟩
  · cases hres

/-- Binding a session into an empty container, the controller bound
    already, leaves one entry, named as the session, showing it, hooked,
    registered and selected; it makes no session and leaves the session's
    state. -/
theorem bind_into_empty {x : Session} (hc : h.controller = some c) (hb : c.bound = true)
    (hx : h.session? s = some x) (he : h.container.entries = []) :
    (bind r h s).1.sessions.size = h.sessions.size ∧ (bind r h s).1.stateOf s = h.stateOf s ∧
      ∃ e, (bind r h s).1.container.entries = [e] ∧ e.name = x.name ∧ e.session = some s ∧ e.hooked = true ∧
        (bind r h s).1.controllerRegistry.find? e.name = some s ∧ (bind r h s).1.container.selected = some e.name := by
  have hfind : h.container.find? x.name = none := by simp [Container.find?, he]
  obtain ⟨H, k, hfr, -, hctrl, -, -, hcont, hic⟩ := installContent_new r hc hx hfind
  have hstate := bind_stateOf_self (h := h) (s := s) r
  -- the controller is bound already, so binding only installs
  have hbind := bind_eq r hic (c := { c with registry := c.registry.set x.name s }) (by rw [hctrl])
  simp only [hb, if_true] at hbind
  rw [hbind] at hstate ⊢
  refine ⟨hfr.count, hstate, { name := x.name, surface := k, session := some s, hooked := true },
    ?_, rfl, rfl, rfl, ?_, rfl⟩
  · rw [hcont]
    simp [he]
  · rw [controllerRegistry_withContainer, controllerRegistry_of hctrl]
    exact Registry.find?_set _ _ _

/-- A successful launch attempt into an empty container leaves one entry,
    showing the new session, which runs, is registered under the entry's
    name, and is selected; exactly one session is made. -/
theorem launchInto_ok (hc : h.controller = some c) (hb : c.bound = true) (he : h.container.entries = [])
    (hl : launchInto r h = (h', .ok s)) :
    s = h.sessions.size ∧ h'.sessions.size = s + 1 ∧ h'.stateOf s = .running ∧
      ∃ e, h'.container.entries = [e] ∧ e.name = h.nextName ∧ e.session = some s ∧ e.hooked = true ∧
        h'.controllerRegistry.find? e.name = some s ∧ h'.container.selected = some e.name := by
  rcases launchInto_cases hl with ⟨-, -, hres⟩ | ⟨_, _, _, _, _, hres⟩ | ⟨h₂, b, hst, rfl, hres⟩
  · cases hres
  · cases hres
  obtain rfl : s = h.sessions.size := Except.ok.inj hres
  generalize hy : Session.create h.nextName h.factory.spec h.factory.options = y at hst
  -- starting the new session leaves the desk alone
  have ha := aside_start (h := (h.addSession y).1) (s := h.sessions.size) (fun h => (h, ())) fun h => .refl h
  rw [hst] at ha
  dsimp only at ha
  have hy₁ : (h.addSession y).1.session? h.sessions.size = some y := by simp [addSession, session?]
  obtain ⟨x, hx, hname, -⟩ := ha.frame.sessions _ y hy₁
  have he₂ : h₂.container.entries = [] := by
    rw [ha.container]
    exact he
  obtain ⟨hsize, hstate, e, hentries, hename, hrest⟩ := bind_into_empty (r := r) (ha.controller.trans hc) hb hx he₂
  refine ⟨rfl, ?_, ?_, e, hentries, ?_, hrest⟩
  · rw [hsize, ha.frame.count]
    simp [addSession]
  · rw [hstate]
    exact start_ok_running hst
  · rw [hename, hname, ← hy]
    rfl

/-! ### The handler -/

/-- A bound controller on a desk in order is subscribed, so a notification
    asks for a console exactly when respawning is on and the container is
    shown with no entry. -/
theorem respawnWanted_of_bound (ho : Orderly known h) (hc : h.controller = some c) (hb : c.bound = true) :
    h.respawnWanted = (c.settings.autoRespawn && h.container.visible && h.container.entries.isEmpty) := by
  have hsub : h.container.subscriptions = 1 := by simpa [hb] using ho.subscribed c hc
  simp [respawnWanted, hsub, hc, ho.bridged]

/-- How a bound controller answers a notification on the desk `H`. -/
structure Answers (H : Host T) (c : Controller) : Prop where
  /-- It attempts a launch exactly when respawning is on and the container
      is shown with no entry, and changes nothing otherwise. -/
  respawns : notifyWith respawn H =
    if c.settings.autoRespawn ∧ H.container.visible ∧ H.container.entries = [] then
      (launchInto (respawner 2) H).1
    else H
  /-- A successful attempt on the empty container leaves one entry, showing
      the one new session, running, registered under the entry's name,
      selected and hooked. -/
  launched : ∀ r H' s, H.container.entries = [] → launchInto r H = (H', .ok s) →
    s = H.sessions.size ∧ H'.sessions.size = s + 1 ∧ H'.stateOf s = .running ∧
      ∃ e, H'.container.entries = [e] ∧ e.name = H.nextName ∧ e.session = some s ∧ e.hooked = true ∧
        H'.controllerRegistry.find? e.name = some s ∧ H'.container.selected = some e.name
  /-- A failed attempt leaves the container and the controller, and so
      whether the next notification attempts again. -/
  failed : ∀ r H' f, launchInto r H = (H', .error f) →
    H'.container = H.container ∧ H'.controller = H.controller ∧ H'.respawnWanted = H.respawnWanted

/-- A bound controller on a desk in order answers every notification as
    `Answers` says: it launches a console exactly when respawning is on and
    the container is shown empty; a launch that succeeds leaves one entry
    with the one new, running, registered and selected session; one that
    fails leaves the desk as it was, and the next notification may retry. -/
theorem bound_controller_answers (ho : Orderly known H) (hc : H.controller = some c) (hb : c.bound = true) :
    Answers H c where
  respawns := by
    rw [notifyWith, respawnWanted_of_bound ho hc hb]
    by_cases hw : c.settings.autoRespawn ∧ H.container.visible ∧ H.container.entries = []
    · obtain ⟨ha, hv, he⟩ := hw
      simp [ha, hv, he, respawn, respawnDepth, respawner]
    · rw [if_neg hw]
      simp only [Bool.and_eq_true, List.isEmpty_iff]
      rw [if_neg (by simpa [and_assoc] using hw)]
  launched := fun _ _ _ he hl => launchInto_ok hc hb he hl
  failed := fun _ _ _ hl => by
    obtain ⟨hk, hctl, hbr⟩ := launchInto_error hl
    exact ⟨hk, hctl, by simp [respawnWanted, hk, hctl, hbr]⟩

/-- A bound controller, respawning on, with the container shown and
    empty. -/
def shownEmptyDesk : Host Empty :=
  { container := { visible := true, autoHide := true, subscriptions := 1 }
    controller := some { bound := true } }

/-- The shown empty desk is in order, and the controller answers on it. -/
theorem shown_empty_desk_answers :
    Orderly [] shownEmptyDesk ∧ shownEmptyDesk.controller = some { bound := true } ∧
      ({ bound := true } : Controller).bound = true ∧ Answers shownEmptyDesk { bound := true } := by
  have hfresh : Fresh ({} : Host Empty) :=
    ⟨⟨{}, rfl, rfl, rfl⟩, rfl, rfl, rfl, rfl, fitting_of_sessions (by simp) rfl⟩
  have ho : Orderly [] shownEmptyDesk := ((Orderly.fresh hfresh).subscribe rfl rfl true).visible true
  exact ⟨ho, rfl, rfl, bound_controller_answers ho rfl rfl⟩

end Host

end ReplHost
