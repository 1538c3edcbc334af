import ReplHost.Proofs.Host.Aside
import ReplHost.Proofs.Host.Registry
import ReplHost.Host.Activation

/-! # What the controller and the container do

  One lemma for each operation on the console desk: installing a session
  in the controller's registry and removing it, setting and adding
  entries, removing an entry with its hook, and putting a session into the
  entry of its name. Each says how the controller and the container change,
  and that the rest of the host only moves on (`Host.Frame`).
-/

namespace ReplHost

variable {T : Type}

namespace Container

/-- Removing the first entry of a name takes it out of its place; the
    selection moves to the last entry left if it was on the removed name. -/
theorem remove?_some {c c' : Container} {n : String} {e : Entry} (hr : c.remove? n = some (e, c')) :
    ∃ l₁ l₂, c.entries = l₁ ++ e :: l₂ ∧ e.name = n ∧ c'.entries = l₁ ++ l₂ ∧
      c'.selected = (if c.selected = some n then (l₁ ++ l₂).getLast?.map (·.name) else c.selected) ∧
      c'.subscriptions = c.subscriptions ∧ c'.autoHide = c.autoHide := by
  unfold remove? at hr
  split at hr
  · cases hr
  · rename_i i hi
    split at hr
    · cases hr
    · rename_i e₀ he₀
      simp only [Option.some.injEq, Prod.mk.injEq] at hr
      obtain ⟨rfl, rfl⟩ := hr
      obtain ⟨hlt, hp, -⟩ := List.findIdx?_eq_some_iff_getElem.mp hi
      have hget : c.entries[i] = e₀ := by simpa [hlt] using he₀
      have hsplit : c.entries = c.entries.take i ++ e₀ :: c.entries.drop (i + 1) := by
        rw [← hget, ← List.drop_eq_getElem_cons hlt, List.take_append_drop]
      refine ⟨c.entries.take i, c.entries.drop (i + 1), hsplit, ?_, ?_, ?_, rfl, rfl⟩
      · rw [← hget]
        simpa using hp
      · simp [List.eraseIdx_eq_take_drop_succ]
      · simp [List.eraseIdx_eq_take_drop_succ]

end Container

namespace Host

variable {h : Host T} {c : Controller} {s t k : Nat} {x : Session} {n : String} {e : Entry}

/-! ### Calls on sessions -/

@[simp] theorem attach_controller (h : Host T) (s k : Nat) : (h.attach s k).controller = h.controller :=
  (aside_attach k).controller

@[simp] theorem attach_container (h : Host T) (s k : Nat) : (h.attach s k).container = h.container :=
  (aside_attach k).container

@[simp] theorem dispose_controller (h : Host T) (s : Nat) : (h.dispose s).controller = h.controller :=
  aside_dispose.controller

@[simp] theorem dispose_container (h : Host T) (s : Nat) : (h.dispose s).container = h.container :=
  aside_dispose.container

@[simp] theorem stateOf_dispose (h : Host T) (t : Nat) : (h.dispose t).stateOf t = .disposed := by
  unfold dispose
  split
  · assumption
  · unfold stateOf
    rw [session?_modifySession_self]
    cases h.session? t <;> rfl

/-! ### The controller's registry -/

theorem controllerRegistry_of (hc : h.controller = some c) : h.controllerRegistry = c.registry := by
  simp [controllerRegistry, hc]

@[simp] theorem setRegistry_controller (h : Host T) (g : Registry) :
    (h.setRegistry .controller g).controller = h.controller.map fun c => { c with registry := g } :=
  rfl

@[simp] theorem setRegistry_container (h : Host T) (g : Registry) :
    (h.setRegistry .controller g).container = h.container := rfl

@[simp] theorem setRegistry_sinks (h : Host T) (g : Registry) :
    (h.setRegistry .controller g).sinks = h.sinks := rfl

theorem frame_setRegistry (h : Host T) (g : Registry) : Frame h (h.setRegistry .controller g) :=
  ⟨rfl, Nat.le_refl _, rfl, .of_sessions rfl⟩

/-- Installing session `s` puts it under its name, after disposing a
    different session registered there. -/
theorem install_controller (hc : h.controller = some c) (hx : h.session? s = some x) :
    ∃ h₀, Aside h h₀ ∧ (∀ p, c.registry.find? x.name = some p → p ≠ s → h₀.stateOf p = .disposed) ∧
      h.install .controller s = h₀.setRegistry .controller (c.registry.set x.name s) := by
  have heq : h.install .controller s = ((c.registry.find? x.name).elim h
      fun p => if p ≠ s then h.dispose p else h).setRegistry .controller (c.registry.set x.name s) := by
    cases hp : c.registry.find? x.name <;> simp [install, registryOf, hc, hx, hp]
  rw [heq]
  cases hp : c.registry.find? x.name with
  | none => exact ⟨h, .refl h, by simp, rfl⟩
  | some p =>
    by_cases hps : p = s
    · -- `s` itself was registered there
      refine ⟨h, .refl h, fun p' hp' hne => absurd (hps ▸ Option.some.inj hp'.symm) hne, ?_⟩
      simp [hps]
    · refine ⟨h.dispose p, aside_dispose, fun p' hp' _ => ?_, by simp [hps]⟩
      obtain rfl : p = p' := Option.some.inj hp'
      exact stateOf_dispose h p

/-- Removing a registered name unregisters it and disposes its session. -/
theorem removeFrom_controller (hc : h.controller = some c) (ht : c.registry.find? n = some t) :
    (h.removeFrom .controller n).1 = (h.setRegistry .controller (c.registry.erase n)).dispose t := by
  simp [removeFrom, registryOf, hc, ht]

/-- The controller's hook on an entry showing session `t`, registered under
    the entry's name, stops `t`, unregisters it and disposes it. -/
theorem runHook_registered (he : e.hooked = true) (hs : e.session = some t)
    (hc : h.controller = some c) (ht : c.registry.find? e.name = some t) :
    h.runHook e = ((h.terminate t).1.setRegistry .controller (c.registry.erase e.name)).dispose t := by
  have hc' : (h.terminate t).1.controller = some c := by rw [aside_terminate.controller, hc]
  simp [runHook, he, hs, hc', ht, removeFrom_controller hc' ht]

/-! ### Entries -/

@[simp] theorem setEntry_controller (h : Host T) (k : Nat) (f : Entry → Entry) :
    (h.setEntry k f).controller = h.controller := rfl

theorem setEntry_container (h : Host T) (k : Nat) (f : Entry → Entry) :
    (h.setEntry k f).container =
      { h.container with entries := h.container.entries.map fun e => if e.surface = k then f e else e } :=
  rfl

theorem frame_setEntry (h : Host T) (k : Nat) (f : Entry → Entry) : Frame h (h.setEntry k f) :=
  ⟨rfl, Nat.le_refl _, rfl, .of_sessions rfl⟩

@[simp] theorem session?_setRegistry (h : Host T) (g : Registry) (t : Nat) :
    (h.setRegistry .controller g).session? t = h.session? t := rfl

/-- While the container has an entry, a notification respawns nothing. -/
theorem notifyWith_of_ne_nil (r : Host T → Host T) (hne : h.container.entries ≠ []) :
    notifyWith r h = h := by
  have hw : h.respawnWanted = false := by
    unfold respawnWanted
    cases h.controller <;> simp [hne]
  simp [notifyWith, hw]

/-- Adding an entry puts it last, rendering into a new surface; the
    container is not empty afterwards, so the notification respawns
    nothing. -/
theorem addEntry_eq (r : Host T → Host T) (h : Host T) (n : String) (o : Option Nat) :
    addEntry r h n o =
      ({ h with
          sinks := h.sinks.push {}
          latest := (n, h.sinks.size) :: h.latest.filter (·.1 ≠ n)
          container := { h.container with
            entries := h.container.entries ++ [{ name := n, surface := h.sinks.size, session := o }] } },
        h.sinks.size) := by
  simp only [addEntry, createSurface, addSink]
  rw [notifyWith_of_ne_nil r (by simp)]

/-! ### Putting a session into the entry of its name -/

/-- Hooking the entry rendering into `k` and routing session `s` to it: the
    container's other fields and the controller stay, and the rest of the
    host only moves on. -/
theorem hookAndAttach (h : Host T) (s k : Nat) :
    ((h.setEntry k fun e => { e with hooked := true }).attach s k).controller = h.controller ∧
      ((h.setEntry k fun e => { e with hooked := true }).attach s k).container =
        { h.container with entries := h.container.entries.map fun e =>
            if e.surface = k then { e with hooked := true } else e } ∧
      Frame h ((h.setEntry k fun e => { e with hooked := true }).attach s k) :=
  ⟨by rw [attach_controller, setEntry_controller], by rw [attach_container, setEntry_container],
    (frame_setEntry _ _ _).trans (aside_attach k).frame⟩

/-- Putting session `s` into the existing entry `e` of its name: the
    registry takes `s` under the name, the entry shows `s` and gets the
    hook, and a session registered there before is disposed. -/
theorem installContent_found (r : Host T → Host T) (hc : h.controller = some c)
    (hx : h.session? s = some x) (he : h.container.find? x.name = some e) :
    ∃ H, Frame h H ∧ (∀ p, c.registry.find? x.name = some p → p ≠ s → H.stateOf p = .disposed) ∧
      H.controller = some { c with registry := c.registry.set x.name s } ∧
      H.container = { h.container with entries := h.container.entries.map fun e' =>
          if e'.surface = e.surface then { e' with session := some s, hooked := true } else e' } ∧
      installContent r h s = ({ H with container := { H.container with selected := some x.name } }, x.name) := by
  obtain ⟨h₀, ha₀, hprev, hinst⟩ := install_controller hc hx
  obtain ⟨x', hx', hn, -⟩ := ha₀.frame.sessions s x hx
  -- the registry is set; then the entry shows `s`
  have hfind : (h₀.setRegistry .controller (c.registry.set x.name s)).container.find? x.name = some e := by
    rw [setRegistry_container, ha₀.container]
    exact he
  generalize hh₂ : (h₀.setRegistry .controller (c.registry.set x.name s)).setEntry e.surface
    (fun e' => { e' with session := some s }) = h₂
  -- a different session the entry showed is disposed
  obtain ⟨h₃, ha₃, hh₃⟩ : ∃ h₃, Aside h₂ h₃ ∧
      h₃ = e.session.elim h₂ fun p => if p ≠ s then h₂.dispose p else h₂ := by
    cases e.session with
    | none => exact ⟨h₂, .refl h₂, rfl⟩
    | some p =>
      by_cases hps : p = s
      · exact ⟨h₂, .refl h₂, by simp [hps]⟩
      · exact ⟨h₂.dispose p, aside_dispose, by simp [hps]⟩
  have hf₂ : Frame h₀ h₂ := by
    rw [← hh₂]
    exact (frame_setRegistry _ _).trans (frame_setEntry _ _ _)
  obtain ⟨hctrl, hcont, hframe⟩ := hookAndAttach h₃ s e.surface
  have hf : Frame h₀ ((h₃.setEntry e.surface fun e => { e with hooked := true }).attach s e.surface) :=
    hf₂.trans (ha₃.frame.trans hframe)
  refine ⟨_, ha₀.frame.trans hf, fun p hp hne => hf.stateOf (hprev p hp hne), ?_, ?_, ?_⟩
  · rw [hctrl, ha₃.controller, ← hh₂, setEntry_controller, setRegistry_controller, ha₀.controller, hc]
    rfl
  · rw [hcont, ha₃.container, ← hh₂, setEntry_container, setRegistry_container, ha₀.container]
    simp only [List.map_map]
    congr 2
    funext e'
    by_cases hs : e'.surface = e.surface <;> simp [hs]
  · -- both sides choose by the session the entry showed
    subst hh₃
    cases hes : e.session <;>
      simp only [installContent, hinst, session?_setRegistry, hx', Option.map_some, Option.getD_some, hn, hfind,
        hh₂, hes, Option.elim_none, Option.elim_some]

/-- Putting session `s` into a new entry of its name, when there is none:
    the registry takes `s` under the name, and the entry comes last,
    rendering into a new surface and showing `s` with the hook. -/
theorem installContent_new (r : Host T → Host T) (hc : h.controller = some c)
    (hx : h.session? s = some x) (he : h.container.find? x.name = none) :
    ∃ H k, Frame h H ∧ (∀ p, c.registry.find? x.name = some p → p ≠ s → H.stateOf p = .disposed) ∧
      H.controller = some { c with registry := c.registry.set x.name s } ∧
      h.sinks.size ≤ k ∧ k < H.sinks.size ∧
      H.container = { h.container with entries := (h.container.entries ++
          [({ name := x.name, surface := k, session := some s } : Entry)]).map fun (e' : Entry) =>
            if e'.surface = k then { e' with hooked := true } else e' } ∧
      installContent r h s = ({ H with container := { H.container with selected := some x.name } }, x.name) := by
  obtain ⟨h₀, ha₀, hprev, hinst⟩ := install_controller hc hx
  obtain ⟨x', hx', hn, -⟩ := ha₀.frame.sessions s x hx
  have hfind : (h₀.setRegistry .controller (c.registry.set x.name s)).container.find? x.name = none := by
    rw [setRegistry_container, ha₀.container]
    exact he
  generalize hh₁ : h₀.setRegistry .controller (c.registry.set x.name s) = h₁ at hfind
  -- the new entry renders into the next sink
  have hf₁ : Frame h₀ (addEntry r h₁ x.name (some s)).1 := by
    rw [addEntry_eq, ← hh₁]
    exact ⟨rfl, by simp, rfl, .of_sessions rfl⟩
  obtain ⟨hctrl, hcont, hframe⟩ := hookAndAttach (addEntry r h₁ x.name (some s)).1 s h₁.sinks.size
  have hk : h₁.sinks.size = h₀.sinks.size := by rw [← hh₁]; rfl
  have hf : Frame h₀ (((addEntry r h₁ x.name (some s)).1.setEntry h₁.sinks.size
      fun e => { e with hooked := true }).attach s h₁.sinks.size) := hf₁.trans hframe
  refine ⟨_, h₁.sinks.size, ha₀.frame.trans hf, fun p hp hne => hf.stateOf (hprev p hp hne), ?_,
    hk ▸ ha₀.frame.sinks, ?_, ?_, ?_⟩
  · rw [hctrl, addEntry_eq, ← hh₁]
    simp [ha₀.controller, hc]
  · have hsize : (addEntry r h₁ x.name (some s)).1.sinks.size = h₁.sinks.size + 1 := by
      rw [addEntry_eq]
      simp
    have := hframe.sinks
    omega
  · rw [hcont, addEntry_eq, ← hh₁, setRegistry_container, ha₀.container]
  · subst hh₁
    simp only [installContent, hinst, session?_setRegistry, hx', Option.map_some, Option.getD_some, hn, hfind]
    rfl

/-- Binding first puts the session into the entry of its name; the first
    bind also subscribes the controller to the container and makes the
    container hide itself when empty, if the settings ask for it. -/
theorem bind_eq {H : Host T} {name : String} (r : Host T → Host T) (hic : installContent r h s = (H, name))
    (hc : H.controller = some c) :
    bind r h s = (if c.bound then H else
      { H with
        container := { H.container with
          autoHide := c.settings.hideWhenEmpty || H.container.autoHide
          subscriptions := H.container.subscriptions + 1 }
        controller := some { c with bound := true } }, name) := by
  cases hb : c.bound <;> simp [bind, hic, hc, hb]

/-! ### Closing an entry -/

theorem frame_withContainer (h : Host T) (k : Container) : Frame h { h with container := k } :=
  ⟨rfl, Nat.le_refl _, rfl, .of_sessions rfl⟩

/-- Closing the entry of a name that shows its registered session `t` and
    carries the hook, written out: the entry leaves the container, the hook
    stops `t`, unregisters the name and disposes `t`, and then the container
    notifies. -/
theorem removeEntry_registered {k : Container} (hr : h.container.remove? n = some (e, k))
    (he : e.hooked = true) (hs : e.session = some t) (hc : h.controller = some c)
    (ht : c.registry.find? e.name = some t) (r : Host T → Host T) :
    removeEntry r h n = (notifyWith r (((({ h with container := k } : Host T).terminate t).1.setRegistry
      .controller (c.registry.erase e.name)).dispose t), some { e with hooked := false, session := none }) := by
  have hc' : ({ h with container := k } : Host T).controller = some c := hc
  simp only [removeEntry, hr, disposeDetached, runHook_registered he hs hc' ht]

/-- Closing the entry of a name that shows its registered session `t` and
    carries the hook: the entry leaves the container, the hook stops and
    disposes `t` and unregisters the name, and then the container
    notifies. -/
theorem removeEntry_hooked {k : Container} (hr : h.container.remove? n = some (e, k))
    (he : e.hooked = true) (hs : e.session = some t) (hc : h.controller = some c)
    (ht : c.registry.find? e.name = some t) :
    ∃ H, Frame h H ∧ H.stateOf t = .disposed ∧
      H.controller = some { c with registry := c.registry.erase e.name } ∧ H.container = k ∧
      ∀ r, removeEntry r h n = (notifyWith r H, some { e with hooked := false, session := none }) := by
  have hc' : ({ h with container := k } : Host T).controller = some c := hc
  refine ⟨((({ h with container := k } : Host T).terminate t).1.setRegistry .controller
      (c.registry.erase e.name)).dispose t, (frame_withContainer h k).trans
    ((aside_terminate (s := t)).frame.trans ((frame_setRegistry _ _).trans aside_dispose.frame)),
    stateOf_dispose _ _, ?_, ?_, ?_⟩
  · rw [dispose_controller, setRegistry_controller, aside_terminate.controller, hc']
    rfl
  · rw [dispose_container, setRegistry_container, aside_terminate.container]
  · exact removeEntry_registered hr he hs hc ht

end Host

end ReplHost
