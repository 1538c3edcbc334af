import ReplHost.Proofs.Host.Respawn
import ReplHost.Proofs.Session.Naming

/-! # Launching a console beside the others

  A launch, whether `launch_new` or the respawn a notification starts, names
  a new session after the settings' title and the names of the entries
  there are (`Title.next`), starts it and binds it. Binding looks for an
  entry of that name and for a session registered under it; when there is
  neither, the launch only adds (`Host.AddsConsole`):

  - one new session, running;
  - one more entry, last, named by the title, showing the new session;
  - the new session registered under that name, every other registration
    kept;
  - and no other session changed, so none is disposed.

  The new name is borne by no entry unless an entry is named
  `title (18446744073709551615)`: the numbering saturates there. Nothing is
  registered under it when every registered name is an entry's name. On a
  desk where these hold, every successful launch adds a console
  (`launch_adds_fresh_console`). Where an entry bears the saturated name,
  the launch puts the new session into that entry instead and disposes the
  session registered there; so does a launch whose name is registered
  without an entry (`launch_disposes_namesakes`).
-/

namespace ReplHost

variable {T : Type}

namespace Host

variable {h h' h'' : Host T} {c : Controller} {s : Nat} {x : Session} {r : Host T → Host T}

/-! ### Changes that spare the other sessions -/

/-- From `h` to `h'`, no session but `s` changes. -/
def Spares (s : Nat) (h h' : Host T) : Prop := ∀ t, t ≠ s → h'.session? t = h.session? t

theorem Spares.refl (s : Nat) (h : Host T) : Spares s h h := fun _ _ => rfl

theorem Spares.trans (h₁ : Spares s h h') (h₂ : Spares s h' h'') : Spares s h h'' :=
  fun t ht => (h₂ t ht).trans (h₁ t ht)

theorem Spares.of_sessions (hs : h'.sessions = h.sessions) : Spares s h h' :=
  fun t _ => by simp [session?, hs]

theorem spares_modifySession (f : Session → Session) : Spares s h (h.modifySession s f) :=
  fun t ht => by simp [session?_modifySession, Ne.symm ht]

theorem spares_adopt (c : Nat) (strip : Bool) : Spares s h (h.adopt s c strip) :=
  fun t ht => by rw [session?_adopt]; exact spares_modifySession _ t ht

theorem spares_startFinish (res : Except HostError Nat) : Spares s h (h.startFinish s res).1 := by
  have hclear : Spares s h (h.modifySession s fun y => { y with starting := false }) := spares_modifySession _
  dsimp only [startFinish]
  split
  · exact hclear
  · split
    · exact hclear.trans fun t _ => session?_killChild _ _ t
    · split
      · exact hclear.trans fun t _ => session?_killChild _ _ t
      · split
        · exact hclear.trans (spares_adopt _ _)
        · exact hclear

/-- A start changes no session but the one it starts. -/
theorem spares_start : Spares s h (h.start s (fun h => (h, ()))).1 := by
  unfold start
  split
  · exact .refl s h
  · rename_i h₁ spec hb
    obtain ⟨-, -, -, -, rfl, -⟩ := startBegin_eq_ok.mp hb
    have hlaunch : Spares s (h.modifySession s fun x => { x with starting := true })
        ((h.modifySession s fun x => { x with starting := true }).launch spec).1 :=
      fun t _ => session?_launch _ _ t
    split
    · rename_i h₂ e heq
      rw [heq] at hlaunch
      exact (spares_modifySession _).trans (hlaunch.trans (spares_startFinish _))
    · rename_i h₂ c heq
      rw [heq] at hlaunch
      exact (spares_modifySession _).trans (hlaunch.trans (spares_startFinish _))

/-- Attaching output changes no session but the one attached. -/
theorem spares_attach (k : Nat) : Spares s h (h.attach s k) := by
  intro t ht
  unfold attach
  split
  · rfl
  · split
    · rfl
    · rw [session?_modifySession, if_neg (Ne.symm ht), session?_foldl_writeSink,
        session?_modifySession, if_neg (Ne.symm ht)]

/-! ### Binding under a fresh name -/

/-- Installing a session under a name nothing is registered under disposes
    nothing. -/
theorem install_fresh (hc : h.controller = some c) (hx : h.session? s = some x)
    (hr : c.registry.find? x.name = none) :
    h.install .controller s = h.setRegistry .controller (c.registry.set x.name s) := by
  simp [install, registryOf, hc, hx, hr]

/-- Changing the entries that render into surface `k` leaves entries that
    render into earlier surfaces. -/
theorem map_surface_of_lt {old : List Entry} {f : Entry → Entry} (hold : ∀ e ∈ old, e.surface < k) :
    old.map (fun e => if e.surface = k then f e else e) = old := by
  conv_rhs => rw [← List.map_id old]
  refine List.map_congr_left fun e he => ?_
  have hne : e.surface ≠ k := Nat.ne_of_lt (hold e he)
  simp [hne]

/-- Binding a session under a name that no entry bears and nothing is
    registered under: the entries there are stay as they are and one more
    comes last, showing the session and rendering into a new surface; the
    registry takes the session under the name; no other session changes. -/
theorem bind_fresh (hc : h.controller = some c) (hx : h.session? s = some x)
    (he : h.container.find? x.name = none) (hr : c.registry.find? x.name = none)
    (hdrawn : ∀ e ∈ h.container.entries, e.surface < h.sinks.size) :
    (∃ e, (bind r h s).1.container.entries = h.container.entries ++ [e] ∧ e.name = x.name ∧
      e.session = some s ∧ h.sinks.size ≤ e.surface) ∧
    (bind r h s).1.controllerRegistry = c.registry.set x.name s ∧ Spares s h (bind r h s).1 ∧
    (bind r h s).1.sessions.size = h.sessions.size ∧ (bind r h s).1.controller.isSome := by
  obtain ⟨H, k, hfr, -, hctrl, hk, -, hcont, hic⟩ := installContent_new r hc hx he
  have hbind := bind_eq r hic (c := { c with registry := c.registry.set x.name s }) (by rw [hctrl])
  -- binding keeps the entries and the registry that putting the content in leaves
  have hentries : (bind r h s).1.container.entries = H.container.entries := by
    rw [hbind]
    split <;> rfl
  have hsessions : (bind r h s).1.sessions = (installContent r h s).1.sessions := by
    rw [hbind, hic]
    split <;> rfl
  have hreg : (bind r h s).1.controllerRegistry = c.registry.set x.name s := by
    rw [hbind]
    split
    · simp [controllerRegistry, hctrl]
    · rfl
  -- only the new entry renders into the new surface `k`
  have hhook : h.container.entries.map (fun e' : Entry => if e'.surface = k then { e' with hooked := true } else e') =
      h.container.entries :=
    map_surface_of_lt fun e' he' => Nat.lt_of_lt_of_le (hdrawn e' he') hk
  refine ⟨⟨{ name := x.name, surface := k, session := some s, hooked := true }, ?_, rfl, rfl, hk⟩, hreg, ?_,
    by rw [hsessions, hic]; exact hfr.count, by rw [hbind]; split <;> simp [hctrl]⟩
  · rw [hentries, hcont]
    simp only [List.map_append, hhook, List.map_cons, List.map_nil, if_true]
  · -- the registry is set, the entry added and hooked, and only `s` attached
    have hfind : (h.setRegistry .controller (c.registry.set x.name s)).container.find? x.name = none := he
    intro t ht
    rw [show (bind r h s).1.session? t = (installContent r h s).1.session? t by simp [session?, hsessions]]
    simp only [installContent, install_fresh hc hx hr, session?_setRegistry, hx, Option.map_some,
      Option.getD_some, hfind]
    rw [show ∀ H : Host T, ∀ n, ({ H with container := { H.container with selected := some n } } : Host T).session? t =
      H.session? t from fun _ _ => rfl, spares_attach _ t ht, addEntry_eq]
    rfl

/-! ### A launch that adds a console -/

/-- What a successful launch on the desk `h` of controller `c` leaves when it
    adds the console of session `s` and touches nothing else. -/
structure AddsConsole (h : Host T) (c : Controller) (h' : Host T) (s : Nat) : Prop where
  /-- `s` is a new session, the only one made. -/
  made : s = h.sessions.size ∧ h'.sessions.size = s + 1
  /-- It runs. -/
  running : h'.stateOf s = .running
  /-- The container gains one entry, last, named by the title and the names
      there were and showing `s`; the entries there were stay as they were. -/
  entry : ∃ e, h'.container.entries = h.container.entries ++ [e] ∧
    e.name = Title.next c.settings.title (h.container.entries.map (·.name)) ∧ e.session = some s
  /-- `s` is registered under that name. -/
  registered : h'.controllerRegistry.find? (Title.next c.settings.title (h.container.entries.map (·.name))) = some s
  /-- Every name registered before keeps its session. -/
  kept : ∀ n p, c.registry.find? n = some p → h'.controllerRegistry.find? n = some p
  /-- No other session changes, so none is disposed. -/
  others : ∀ t, t ≠ s → h'.session? t = h.session? t

theorem nextName_of (hc : h.controller = some c) :
    h.nextName = Title.next c.settings.title (h.container.entries.map (·.name)) := by
  simp [nextName, hc]

/-- A successful launch on a desk whose new name is fresh adds a console
    and touches nothing else. -/
theorem launchInto_fresh (hc : h.controller = some c)
    (hdrawn : ∀ e ∈ h.container.entries, e.surface < h.sinks.size)
    (he : h.nextName ∉ h.container.entries.map (·.name)) (hr : c.registry.find? h.nextName = none)
    (hl : launchInto r h = (h', .ok s)) : AddsConsole h c h' s := by
  rcases launchInto_cases hl with ⟨-, -, hres⟩ | ⟨_, _, _, _, _, hres⟩ | ⟨h₂, b, hst, rfl, hres⟩
  · cases hres
  · cases hres
  obtain rfl : s = h.sessions.size := Except.ok.inj hres
  generalize hy : Session.create h.nextName h.factory.spec h.factory.options = y at hst
  -- the start leaves the desk alone and changes only the new session
  have ha := aside_start (h := (h.addSession y).1) (s := h.sessions.size) (fun h => (h, ())) fun h => .refl h
  have hsp := spares_start (h := (h.addSession y).1) (s := h.sessions.size)
  rw [hst] at ha hsp
  dsimp only at ha hsp
  have hy₁ : (h.addSession y).1.session? h.sessions.size = some y := by simp [addSession, session?]
  obtain ⟨x, hx, hname, -⟩ := ha.frame.sessions _ y hy₁
  have hxname : x.name = h.nextName := by rw [hname, ← hy]; rfl
  have hc₂ : h₂.controller = some c := ha.controller.trans hc
  have hk₂ : h₂.container = h.container := ha.container
  have hfind : h₂.container.find? x.name = none := by
    rw [hk₂, Container.find?, List.find?_eq_none]
    intro e hmem heq
    exact he (List.mem_map.mpr ⟨e, hmem, by simpa [hxname] using heq⟩)
  have hdrawn₂ : ∀ e ∈ h₂.container.entries, e.surface < h₂.sinks.size := by
    intro e hmem
    rw [hk₂] at hmem
    have := hdrawn e hmem
    have : h.sinks.size ≤ h₂.sinks.size := ha.frame.sinks
    omega
  obtain ⟨⟨e, hentries, hename, hesession, -⟩, hreg, hspare, hcount, -⟩ :=
    bind_fresh (r := r) hc₂ hx hfind (hxname ▸ hr) hdrawn₂
  have hnext := nextName_of hc
  refine ⟨⟨rfl, ?_⟩, ?_, ⟨e, ?_, ?_, hesession⟩, ?_, ?_, ?_⟩
  · rw [hcount, ha.frame.count]
    simp [addSession]
  · rw [bind_stateOf_self]
    exact start_ok_running hst
  · rw [hentries, hk₂]
  · rw [hename, hxname, hnext]
  · rw [hreg, ← hnext, ← hxname]
    exact Registry.find?_set _ _ _
  · intro n p hp
    have hne : n ≠ x.name := by
      rintro rfl
      rw [hxname, hr] at hp
      cases hp
    rw [hreg, Registry.find?_set_ne _ _ hne, hp]
  · intro t ht
    rw [hspare t ht, hsp t ht]
    simp [addSession, session?, Array.getElem?_push, ht]

/-- On a desk where every registered name is an entry's name, no entry bears
    the title numbered `18446744073709551615`, and entries render into
    surfaces the host made, every successful launch adds a console and
    touches nothing else: `launch_new`, and the launch a notification
    starts, whatever respawning it nests. -/
theorem launch_adds_fresh_console (hc : h.controller = some c)
    (hdrawn : ∀ e ∈ h.container.entries, e.surface < h.sinks.size)
    (hkeys : ∀ n, (c.registry.find? n).isSome → n ∈ h.container.entries.map (·.name))
    (hsat : c.settings.title ++ " (18446744073709551615)" ∉ h.container.entries.map (·.name)) :
    (∀ h' s, h.launchNew = (h', .ok s) → AddsConsole h c h' s) ∧
      ∀ r h' s, launchInto r h = (h', .ok s) → AddsConsole h c h' s := by
  have he : h.nextName ∉ h.container.entries.map (·.name) := by
    rw [nextName_of hc, Title.next_mem_iff, Title.numbered_wordMax]
    exact hsat
  have hr : c.registry.find? h.nextName = none := by
    cases hp : c.registry.find? h.nextName with
    | none => rfl
    | some p => exact absurd (hkeys _ (by simp [hp])) he
  have hlaunch : ∀ r h' s, launchInto r h = (h', .ok s) → AddsConsole h c h' s :=
    fun _ _ _ hl => launchInto_fresh hc hdrawn he hr hl
  refine ⟨fun h' s hl => ?_, hlaunch⟩
  unfold launchNew at hl
  split at hl
  · exact hlaunch _ _ _ hl
  · cases hl

/-- The desk after showing one session named `name`. -/
def deskShowing (name : String) : Host Empty :=
  (bind respawn (({} : Host Empty).addSession (Session.create name (LaunchSpec.ofProgram "evcxr") {})).1 0).1

/-- The controller of `deskShowing name`. -/
def controllerShowing (name : String) : Controller := { registry := { items := [(name, 0)] }, bound := true }

/-- After a console `Rust REPL (7)` is shown, a launch adds a console beside it. -/
theorem launch_beside_shown_console :
    (deskShowing "Rust REPL (7)").controller = some (controllerShowing "Rust REPL (7)") ∧
    (∀ e ∈ (deskShowing "Rust REPL (7)").container.entries, e.surface < (deskShowing "Rust REPL (7)").sinks.size) ∧
    (∀ n, ((controllerShowing "Rust REPL (7)").registry.find? n).isSome →
      n ∈ (deskShowing "Rust REPL (7)").container.entries.map (·.name)) ∧
    (controllerShowing "Rust REPL (7)").settings.title ++ " (18446744073709551615)" ∉
      (deskShowing "Rust REPL (7)").container.entries.map (·.name) ∧
    (∀ h' s, (deskShowing "Rust REPL (7)").launchNew = (h', .ok s) →
      AddsConsole (deskShowing "Rust REPL (7)") (controllerShowing "Rust REPL (7)") h' s) := by
  have hc : (deskShowing "Rust REPL (7)").controller = some (controllerShowing "Rust REPL (7)") := rfl
  have hdrawn : ∀ e ∈ (deskShowing "Rust REPL (7)").container.entries,
      e.surface < (deskShowing "Rust REPL (7)").sinks.size := by decide
  have hkeys : ∀ n, ((controllerShowing "Rust REPL (7)").registry.find? n).isSome →
      n ∈ (deskShowing "Rust REPL (7)").container.entries.map (·.name) := by
    intro n hn
    by_cases hname : n = "Rust REPL (7)"
    · subst hname
      decide
    · -- the registry holds that one name only
      have hbeq : (n == "Rust REPL (7)") = false := beq_false_of_ne hname
      simp only [controllerShowing, Registry.find?, List.lookup_cons, hbeq, List.lookup_nil] at hn
      cases hn
  have hsat : (controllerShowing "Rust REPL (7)").settings.title ++ " (18446744073709551615)" ∉
      (deskShowing "Rust REPL (7)").container.entries.map (·.name) := by decide
  exact ⟨hc, hdrawn, hkeys, hsat, (launch_adds_fresh_console hc hdrawn hkeys hsat).1⟩

/-- The desk after registering one session named `name` with the
    controller, with no entry. -/
def deskRegistering (name : String) : Host Empty :=
  (({} : Host Empty).addSession (Session.create name (LaunchSpec.ofProgram "evcxr") {})).1.install .controller 0

/-- Two desks on which a successful `launch_new` adds no console beside the
    others. After a session named `Rust REPL (18446744073709551615)` is
    shown, the new console takes that name, goes into the same entry, and
    the session shown there is disposed. After a session named `Rust REPL`
    is registered with the controller without an entry, the new console
    takes that name and the registered session is disposed. -/
theorem launch_disposes_namesakes :
    (deskShowing "Rust REPL (18446744073709551615)").stateOf 0 = .created ∧
    (deskShowing "Rust REPL (18446744073709551615)").container.entries.length = 1 ∧
    (deskShowing "Rust REPL (18446744073709551615)").launchNew.2.toOption = some 1 ∧
    (deskShowing "Rust REPL (18446744073709551615)").launchNew.1.container.entries.length = 1 ∧
    (deskShowing "Rust REPL (18446744073709551615)").launchNew.1.stateOf 0 = .disposed ∧
    (deskRegistering "Rust REPL").stateOf 0 = .created ∧
    (deskRegistering "Rust REPL").controllerRegistry.find? "Rust REPL" = some 0 ∧
    (deskRegistering "Rust REPL").launchNew.2.toOption = some 1 ∧
    (deskRegistering "Rust REPL").launchNew.1.stateOf 0 = .disposed := by
  decide

end Host

end ReplHost
