import ReplHost.Proofs.Host.Launch

/-! # Closing an entry

  The container closes the entry of a name: it takes the entry out, moves
  the selection off it, hides itself if it became empty and hides when
  empty, and disposes the entry. Disposing the entry runs its hook once and
  lets go of its session. The controller's hook stops the session the entry
  shows, so the process of a running session is killed, and then takes the
  name out of the registry, which disposes the session.

  On a tidy desk (`Host.Tidy`: in order, and its sessions fitting their
  lifecycle states), as every desk reached by calls is, closing the entry
  of any name leaves, before the container notifies (`Host.Closed`): the process killed exactly once if the
  session was running and untouched otherwise, the session disposed, the
  name gone from the registry and from the entries, the selection and the
  visibility as the container's rules say, and the entry handed back
  without session or hook, so that disposing it again does nothing.

  Main statement: `closing_entry_stops_its_session`.
-/

namespace ReplHost

variable {T : Type}

namespace Container

variable {c c' : Container} {n : String} {e : Entry}

/-- The container holds an entry of every name among its entries' names. -/
theorem remove?_of_mem (hn : n ∈ c.entries.map (·.name)) : ∃ e c', c.remove? n = some (e, c') := by
  unfold remove?
  split
  · rename_i hnone
    obtain ⟨e, he, rfl⟩ := List.mem_map.mp hn
    have := List.findIdx?_eq_none_iff.mp hnone e he
    simp at this
  · rename_i i hi
    split
    · rename_i hget
      obtain ⟨hlt, -⟩ := List.findIdx?_eq_some_iff_getElem.mp hi
      simp [hlt] at hget
    · exact ⟨_, _, rfl⟩

/-- Removing an entry hides a container that hides when empty once no entry
    is left, and leaves its visibility otherwise. -/
theorem remove?_visible (hr : c.remove? n = some (e, c')) :
    c'.visible = if c'.entries.isEmpty && c.autoHide then false else c.visible := by
  unfold remove? at hr
  split at hr
  · cases hr
  · split at hr
    · cases hr
    · cases hr
      rfl

end Container

namespace Host

variable {known : List Nat} {h H : Host T} {c : Controller} {t : Nat} {x : Session} {n : String} {e : Entry}

/-! ### What stopping a session does to processes -/

@[simp] theorem dispose_children (h : Host T) (s : Nat) : (h.dispose s).children = h.children := by
  unfold dispose
  split <;> rfl

@[simp] theorem dispose_launcher (h : Host T) (s : Nat) : (h.dispose s).launcher = h.launcher := by
  unfold dispose
  split <;> rfl

@[simp] theorem setRegistry_children (h : Host T) (which : RegistryChoice) (g : Registry) :
    (h.setRegistry which g).children = h.children := by
  cases which <;> rfl

@[simp] theorem setRegistry_launcher (h : Host T) (which : RegistryChoice) (g : Registry) :
    (h.setRegistry which g).launcher = h.launcher := by
  cases which <;> rfl

/-- Killing a process does not read the container. -/
theorem killChild_withContainer (h : Host T) (k : Container) (p : Nat) :
    ({ h with container := k } : Host T).killChild p = { h.killChild p with container := k } := by
  have hchild : ({ h with container := k } : Host T).child? p = h.child? p := rfl
  unfold killChild
  rw [hchild]
  rcases h.child? p with _ | _ | _ <;> rfl

/-- Stopping a session that fits its state kills the process it controls if
    it runs, and changes nothing otherwise. -/
theorem terminate_processes (hx : h.session? t = some x) (hfit : x.Fits) :
    (x.state = .running → ∃ p, x.control = some p ∧
      (h.terminate t).1.children = (h.killChild p).children ∧
      (h.terminate t).1.launcher = (h.killChild p).launcher) ∧
    (x.state ≠ .running → (h.terminate t).1 = h) := by
  refine ⟨fun hr => ?_, fun hr => ?_⟩
  · obtain ⟨p, hp⟩ := Option.isSome_iff_exists.mp (hfit.running hr).2.1
    rw [terminate_running hx hr hp]
    exact ⟨p, hp, rfl, rfl⟩
  · cases hs : x.state with
    | created => rw [terminate_created hx hs]
    | running => exact absurd hs hr
    | terminated => rw [terminate_stopped hx (.inl hs)]
    | disposed => rw [terminate_stopped hx (.inr hs)]

/-! ### Closing -/

/-- What closing the entry named `n`, which showed session `t` whose record
    was `x` in `h`, leaves in `H` before the container notifies, with the
    entry `e'` handed back. -/
structure Closed (h : Host T) (n : String) (t : Nat) (x : Session) (H : Host T) (e' : Entry) : Prop where
  /-- The process of a running session is killed, once. -/
  killed : x.state = .running → ∃ p, x.control = some p ∧
    H.children = (h.killChild p).children ∧ H.launcher = (h.killChild p).launcher
  /-- No process is touched otherwise. -/
  spared : x.state ≠ .running → H.children = h.children ∧ H.launcher = h.launcher
  /-- The session is disposed. -/
  disposed : H.stateOf t = .disposed
  /-- The name is no longer registered, -/
  unregistered : H.controllerRegistry.find? n = none
  /-- nor an entry's. -/
  removed : n ∉ H.container.entries.map (·.name)
  /-- The entry handed back holds no session, and its hook is spent, -/
  detached : e'.session = none ∧ e'.hooked = false
  /-- so disposing it again does nothing. -/
  spent : ∀ H' : Host T, H'.disposeDetached e' = (H', e')
  /-- The selection moves to the last entry left if it was on the closed
      one. -/
  selected : H.container.selected =
    if h.container.selected = some n then H.container.entries.getLast?.map (·.name) else h.container.selected
  /-- The container hides once it is empty if it hides when empty; its
      visibility stays otherwise. -/
  visible : H.container.visible =
    if H.container.entries.isEmpty && h.container.autoHide then false else h.container.visible

/-- An entry without session or hook is disposed for good: disposing it
    again does nothing. -/
theorem disposeDetached_spent (H : Host T) (e : Entry) :
    H.disposeDetached { e with hooked := false, session := none } =
      (H, { e with hooked := false, session := none }) := by
  simp [disposeDetached, runHook]

/-- Stopping a session leaves the controller and the container alone. -/
@[simp] theorem terminate_controller (h : Host T) (s : Nat) : (h.terminate s).1.controller = h.controller :=
  aside_terminate.controller

@[simp] theorem terminate_container (h : Host T) (s : Nat) : (h.terminate s).1.container = h.container :=
  aside_terminate.container

/-- Closing the entry `e`, which shows the session `t` registered under its
    name and whose record is `x`, through the controller's hook: the hook
    stops `t`, unregisters the name and disposes `t`, which leaves what
    `Closed` says. -/
theorem closed_after_hook {k : Container} (hnames : (h.container.entries.map (·.name)).Nodup)
    (hr : h.container.remove? e.name = some (e, k)) (hc : h.controller = some c)
    (hx : h.session? t = some x) (hfit : x.Fits) :
    Closed h e.name t x (((({ h with container := k } : Host T).terminate t).1.setRegistry .controller
      (c.registry.erase e.name)).dispose t) { e with hooked := false, session := none } := by
  obtain ⟨l₁, l₂, hentries, -, hkentries, hksel, -, -⟩ := Container.remove?_some hr
  have hcont : (((({ h with container := k } : Host T).terminate t).1.setRegistry .controller
      (c.registry.erase e.name)).dispose t).container = k := by
    simp only [dispose_container, setRegistry_container, terminate_container]
  have hctrl : (((({ h with container := k } : Host T).terminate t).1.setRegistry .controller
      (c.registry.erase e.name)).dispose t).controller = some { c with registry := c.registry.erase e.name } := by
    simp only [dispose_controller, setRegistry_controller, terminate_controller]
    rw [show ({ h with container := k } : Host T).controller = some c from hc]
    rfl
  obtain ⟨hkill, hspare⟩ := terminate_processes (h := { h with container := k }) hx hfit
  refine
    { killed := fun hrun => ?_
      spared := fun hrun => by simp [hspare hrun]
      disposed := stateOf_dispose _ _
      unregistered := by rw [controllerRegistry_of hctrl, Registry.find?_erase_self]
      removed := ?_
      detached := ⟨rfl, rfl⟩
      spent := fun H' => disposeDetached_spent H' e
      selected := by rw [hcont, hksel, hkentries]
      visible := by rw [hcont, Container.remove?_visible hr] }
  · -- the process the session controls is killed once, whatever the container
    obtain ⟨p, hp, hch, hla⟩ := hkill hrun
    rw [killChild_withContainer] at hch hla
    exact ⟨p, hp, by simp [hch], by simp [hla]⟩
  · -- the entries left have other names than the closed one
    rw [hcont, hkentries]
    exact fun hin => ((mem_names_remove (hentries ▸ hnames) e.name).mp hin).2 rfl

/-- On a tidy desk, closing the entry of any of its names stops and
    disposes the session registered under the name, which the entry shows: its process is killed exactly once if it
    was running, and not at all otherwise. Before the container notifies,
    the name is gone from the registry and from the entries, the selection
    has moved to the last entry left if it was on the closed one, the
    container is hidden if it became empty and hides when empty, and the
    entry is handed back without session or hook, so disposing it again
    does nothing. -/
theorem closing_entry_stops_its_session (ho : Tidy known h) (hn : n ∈ h.container.entries.map (·.name)) :
    ∃ t x H e', h.controllerRegistry.find? n = some t ∧ h.session? t = some x ∧ Closed h n t x H e' ∧
      ∀ r, removeEntry r h n = (notifyWith r H, some e') := by
  obtain ⟨c, hc⟩ := Option.isSome_iff_exists.mp ho.controller
  have hreg₀ : h.controllerRegistry = c.registry := controllerRegistry_of hc
  obtain ⟨e, k, hr⟩ := Container.remove?_of_mem hn
  obtain ⟨l₁, l₂, hentries, rfl, -⟩ := Container.remove?_some hr
  -- the entry shows the session registered under its name, and has the hook
  obtain ⟨hsess, hhook⟩ := ho.slots e (by rw [hentries]; simp)
  obtain ⟨t, ht⟩ : ∃ t, c.registry.find? e.name = some t := by
    rw [← hreg₀]
    exact Option.isSome_iff_exists.mp ((ho.keys e.name).mpr hn)
  rw [hreg₀, ht] at hsess
  obtain ⟨x, hx, -⟩ := ho.labelled e.name t (hreg₀ ▸ ht)
  exact ⟨t, x, _, _, hreg₀ ▸ ht, hx, closed_after_hook ho.names hr hc hx (ho.fits t x hx),
    removeEntry_registered hr hhook hsess hc ht⟩

/-- Closing the one console of the desk showing it disposes its session,
    which had not started, without touching a process. -/
theorem closing_shown_console_disposes_it :
    Tidy [0] (deskShowing "Rust REPL") ∧
    "Rust REPL" ∈ (deskShowing "Rust REPL").container.entries.map (·.name) ∧
    ∃ t x H e', (deskShowing "Rust REPL").controllerRegistry.find? "Rust REPL" = some t ∧
      (deskShowing "Rust REPL").session? t = some x ∧ Closed (deskShowing "Rust REPL") "Rust REPL" t x H e' ∧
      ∀ r, removeEntry r (deskShowing "Rust REPL") "Rust REPL" = (notifyWith r H, some e') := by
  have hfresh : Fresh ({} : Host Empty) :=
    ⟨⟨{}, rfl, rfl, rfl⟩, rfl, rfl, rfl, rfl, fitting_of_sessions (by simp) rfl⟩
  -- the desk is reached from the fresh one by creating a session and binding it, which makes no session
  have ht := Tended.call (.bind 0)
    (.create (Session.create "Rust REPL" (LaunchSpec.ofProgram "evcxr") {}) (Session.fits_create _ _ _)
      (.fresh hfresh)) (by simp [DeskCall.hands, Host.addSession])
  rw [made_of_count (by decide), List.append_nil, List.nil_append] at ht
  have ho : Tidy [0] (deskShowing "Rust REPL") := ht.tidy
  have hn : "Rust REPL" ∈ (deskShowing "Rust REPL").container.entries.map (·.name) := by decide
  exact ⟨ho, hn, closing_entry_stops_its_session ho hn⟩

end Host

end ReplHost
