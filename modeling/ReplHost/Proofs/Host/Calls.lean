import ReplHost.Proofs.Host.Orderly
import ReplHost.Proofs.Host.Fitting

/-! # The console desk under every sequence of calls

  The calls a desk takes: binding and showing sessions and launching
  consoles through the controller; showing or hiding the container and
  closing its entries; starting (with whatever a hook does while the
  process launches), stopping, disposing and writing to sessions;
  processes exiting and readers delivering what they wrote. Beside them the
  host may create sessions of its own.

  `Tended known h` says that `h` is reached from a fresh desk by such calls,
  where `known` lists the sessions handed to the controller or made by it
  on the way. Every such desk is tidy (`Host.Tidy`): in order, and with
  every session fitting its lifecycle state. It is in order
  (`Host.Orderly`): each call keeps the invariant given that respawning
  does (`Host.Tends`), and respawning does because launching does. Its
  host is fitting (`Host.Fitting`), since every call and every hook it
  sets off keeps it so, and the sessions the host creates fit their states.
-/

namespace ReplHost

variable {T : Type}

namespace Host

/-- A call on the console desk, or on the sessions and processes beside it. -/
inductive DeskCall where
  /-- Binds a session into the container through the controller. -/
  | bind (s : Nat)
  /-- Shows a session in the container the host reports. -/
  | showSession (s : Nat)
  /-- Launches a new console into the container the host reports. -/
  | launchNew
  /-- Shows or hides the container. -/
  | setVisible (on : Bool)
  /-- The host closes the first entry of a name. -/
  | removeEntry (name : String)
  /-- Starts a session, with a hook acting while its process launches. -/
  | start (s : Nat) (during : Option DuringAction)
  | execute (s : Nat) (line : String)
  | terminate (s : Nat)
  | dispose (s : Nat)
  /-- An in-memory process exits. -/
  | exit (p : Nat) (code : Int)
  /-- Every reader delivers what its process wrote, up to its end. -/
  | settle
  deriving Repr

/-- The host after a call; the container's notifications respawn as the
    controller does. -/
def DeskCall.run : DeskCall → Host T → Host T
  | .bind s, h => (Host.bind respawn h s).1
  | .showSession s, h => (h.showSession s).1
  | .launchNew, h => h.launchNew.1
  | .setVisible on, h => Host.setVisible respawn h on
  | .removeEntry name, h => (Host.removeEntry respawn h name).1
  | .start s during, h => (h.start s (duringHook s during)).1
  | .execute s line, h => (h.execute s line).1
  | .terminate s, h => (h.terminate s).1
  | .dispose s, h => h.dispose s
  | .exit p code, h => h.modifyMemory p (·.exit code)
  | .settle, h => h.settle

/-- The sessions a call hands to the controller. -/
def DeskCall.hands : DeskCall → List Nat
  | .bind s | .showSession s => [s]
  | _ => []

/-- A fresh desk: the controller, not yet bound, has registered nothing, and
    the container the host reports has no entry, no selection and no
    subscriber; the sessions the host has fit their states. -/
structure Fresh (h : Host T) : Prop where
  controller : ∃ c, h.controller = some c ∧ c.registry.items = [] ∧ c.bound = false
  bridged : h.bridged = true
  entries : h.container.entries = []
  selected : h.container.selected = none
  subscriptions : h.container.subscriptions = 0
  fitting : Fitting h

/-- The desks reached from a fresh one, with the sessions handed to the
    controller or made by it on the way. A call hands over only sessions
    that exist; a session the host creates fits its state. -/
inductive Tended : List Nat → Host T → Prop
  | fresh {h : Host T} : Fresh h → Tended [] h
  | call {known : List Nat} {h : Host T} (q : DeskCall) : Tended known h →
      (∀ s ∈ q.hands, s < h.sessions.size) → Tended (known ++ q.hands ++ made h (q.run h)) (q.run h)
  | create {known : List Nat} {h : Host T} (x : Session) : x.Fits → Tended known h →
      Tended known (h.addSession x).1

variable {known : List Nat} {h h' : Host T}

theorem Orderly.fresh (hf : Fresh h) : Orderly [] h := by
  obtain ⟨c, hc, hitems, hbound⟩ := hf.controller
  have hreg : h.controllerRegistry = c.registry := controllerRegistry_of hc
  have hnone : ∀ n, h.controllerRegistry.find? n = none := by
    intro n
    simp [hreg, Registry.find?, hitems]
  refine ⟨by simp [hc], hf.bridged, by simp [hf.entries], fun n => by simp [hnone, hf.entries],
    by simp [hf.entries], by simp, by simp [hf.selected], fun hne => absurd hf.entries hne, ?_,
    fun n t ht => by simp [hnone] at ht, by simp [hf.entries], by simp [hf.entries]⟩
  intro c' hc'
  rw [hc] at hc'
  obtain rfl := Option.some.inj hc'
  simp [hf.subscriptions, hbound]

/-- A hook run while a session starts does one operation on that session,
    or nothing. -/
theorem duringHook_fst (s : Nat) (during : Option DuringAction) (h : Host T) :
    (duringHook s during h).1 = h ∨ (duringHook s during h).1 = h.dispose s ∨
      (duringHook s during h).1 = (h.start s fun h => (h, ())).1 ∨
      (duringHook s during h).1 = (h.terminate s).1 ∨ (duringHook s during h).1 = (h.execute s "x").1 := by
  cases during with
  | none => exact .inl rfl
  | some a =>
    cases a with
    | dispose => exact .inr (.inl rfl)
    | start =>
      refine .inr (.inr (.inl ?_))
      dsimp only [duringHook]
      split <;> rename_i heq <;> rw [heq]
    | terminate =>
      refine .inr (.inr (.inr (.inl ?_)))
      dsimp only [duringHook]
      split <;> rename_i heq <;> rw [heq]
    | execute =>
      refine .inr (.inr (.inr (.inr ?_)))
      dsimp only [duringHook]
      split <;> rename_i heq <;> rw [heq]
    | state => exact .inl rfl

theorem aside_duringHook (s : Nat) (during : Option DuringAction) (h : Host T) :
    Aside h (duringHook s during h).1 := by
  rcases duringHook_fst s during h with he | he | he | he | he <;> rw [he]
  · exact .refl h
  · exact aside_dispose
  · exact aside_start _ fun h => .refl h
  · exact aside_terminate
  · exact aside_execute "x"

theorem fitting_duringHook (s : Nat) (during : Option DuringAction) (H : Host T) (hH : Fitting H) :
    Fitting (duringHook s during H).1 := by
  rcases duringHook_fst s during H with he | he | he | he | he <;> rw [he]
  · exact hH
  · exact hH.dispose
  · exact hH.start _ fun _ h => h
  · exact hH.terminate
  · exact hH.execute "x"

/-- A call that leaves the desk alone hands over and makes nothing. -/
theorem Orderly.call_aside (ho : Orderly known h) (ha : Aside h h') : Orderly (known ++ [] ++ made h h') h' := by
  rw [made_of_count ha.frame.count, List.append_nil, List.append_nil]
  exact ho.aside ha

/-- A change the container notifies after keeps the desk in order when the
    change itself does. -/
theorem Orderly.notified {H : Host T} (ho : Orderly known H) (hc : H.sessions.size = h.sessions.size) :
    Orderly (known ++ [] ++ made h (notifyWith respawn H)) (notifyWith respawn H) := by
  rw [List.append_nil, ← made_congr hc]
  exact (tends_respawn.notifyWith known H ho).1

/-- Every call keeps the desk in order, counting the sessions it hands to
    the controller and those it makes. -/
theorem Orderly.call (ho : Orderly known h) (q : DeskCall) (hq : ∀ s ∈ q.hands, s < h.sessions.size) :
    Orderly (known ++ q.hands ++ made h (q.run h)) (q.run h) := by
  -- binding makes no session, and showing binds since the host reports the container
  have hbind : ∀ s, s < h.sessions.size →
      Orderly (known ++ [s] ++ made h (Host.bind respawn h s).1) (Host.bind respawn h s).1 := by
    intro s hs
    obtain ⟨hob, hsize⟩ := ho.bind hs respawn
    rw [made_of_count hsize, List.append_nil]
    exact hob
  cases q with
  | bind s => exact hbind s (hq s (by simp [DeskCall.hands]))
  | showSession s =>
    simp only [DeskCall.run, Host.showSession, ho.bridged, if_true]
    exact hbind s (hq s (by simp [DeskCall.hands]))
  | launchNew =>
    simp only [DeskCall.run, Host.launchNew, ho.bridged, if_true, DeskCall.hands, List.append_nil]
    exact (ho.launchInto respawn).1
  | setVisible on =>
    exact (ho.visible on).notified rfl
  | removeEntry name =>
    cases hr : h.container.remove? name with
    | none =>
      have hid : (DeskCall.removeEntry name).run h = h := by simp [DeskCall.run, Host.removeEntry, hr]
      rw [hid]
      exact ho.call_aside (.refl h)
    | some ek =>
      obtain ⟨H, hf, hoH, heq⟩ := ho.close hr
      simp only [DeskCall.run, heq respawn]
      exact hoH.notified hf.count
  | start s during => exact ho.call_aside (aside_start _ (aside_duringHook s during))
  | execute s line => exact ho.call_aside (aside_execute line)
  | terminate s => exact ho.call_aside aside_terminate
  | dispose s => exact ho.call_aside aside_dispose
  | exit p code => exact ho.call_aside (aside_of_sessions rfl rfl rfl rfl rfl)
  | settle => exact ho.call_aside aside_settle

/-- Every call keeps the sessions fitting their states, with whatever the
    hooks and the respawns it sets off do. -/
theorem Fitting.call (hf : Fitting h) (q : DeskCall) : Fitting (q.run h) := by
  cases q with
  | bind s => exact hf.bind respawn s
  | showSession s => exact hf.showSession s
  | launchNew => exact hf.launchNew
  | setVisible on => exact hf.setVisible fitting_respawn on
  | removeEntry name => exact hf.removeEntry fitting_respawn name
  | start s during => exact hf.start _ (fitting_duringHook s during)
  | execute s line => exact hf.execute line
  | terminate s => exact hf.terminate
  | dispose s => exact hf.dispose
  | exit p code => exact hf.of_sessions rfl rfl
  | settle => exact hf.settle

/-- The console desk is in order, for the sessions `known` that the
    controller was given or made, and every session fits its lifecycle
    state. -/
structure Tidy (known : List Nat) (h : Host T) : Prop extends Orderly known h where
  fits : ∀ t x, h.session? t = some x → x.Fits

/-- Every desk reached from a fresh one is in order, and its host is
    fitting. -/
theorem Tended.orderly_fitting (ht : Tended known h) : Orderly known h ∧ Fitting h := by
  induction ht with
  | fresh hf => exact ⟨.fresh hf, hf.fitting⟩
  | call q _ hq ih => exact ⟨ih.1.call q hq, ih.2.call q⟩
  | create x hx _ ih => exact ⟨ih.1.addSession x, ih.2.addSession hx⟩

/-- Every desk reached from a fresh one is tidy. -/
theorem Tended.tidy (ht : Tended known h) : Tidy known h := by
  obtain ⟨ho, hf⟩ := ht.orderly_fitting
  exact ⟨ho, hf.fits⟩

/-- However the controller, the container, the sessions and their processes
    are called, with every respawn and hook those calls set off, the desk
    stays in order: entry names are distinct; the registry's names are the
    entries' names; each entry shows the session registered under its name
    and carries the controller's hook; each session handed to the
    controller or made by it is registered or disposed; the selection names
    an entry and exists while there are entries; and the controller has
    subscribed to the container exactly once when bound, and not before. -/
theorem desk_stays_in_order (ht : Tended known h) :
    (h.container.entries.map (·.name)).Nodup ∧
    (∀ n, (h.controllerRegistry.find? n).isSome ↔ n ∈ h.container.entries.map (·.name)) ∧
    (∀ e ∈ h.container.entries, e.session = h.controllerRegistry.find? e.name ∧ e.hooked = true) ∧
    (∀ t ∈ known, (∃ n, h.controllerRegistry.find? n = some t) ∨ h.stateOf t = .disposed) ∧
    (∀ n, h.container.selected = some n → n ∈ h.container.entries.map (·.name)) ∧
    (h.container.entries ≠ [] → h.container.selected.isSome) ∧
    (∀ c, h.controller = some c → h.container.subscriptions = if c.bound then 1 else 0) := by
  have ho := ht.orderly_fitting.1
  exact ⟨ho.names, ho.keys, ho.slots, fun t ht => (ho.released t ht).2, ho.selected, ho.selects,
    ho.subscribed⟩

/-- Binding the one session of a fresh host leaves entry names distinct. -/
theorem bound_console_names_distinct :
    (((DeskCall.bind 0).run
      ({ sessions := #[Session.create "repl" (LaunchSpec.ofProgram "sh") {}] } : Host Empty)).container.entries.map (·.name)).Nodup :=
  (desk_stays_in_order (.call (.bind 0) (.fresh ⟨⟨{}, rfl, rfl, rfl⟩, rfl, rfl, rfl, rfl,
    fitting_of_sessions (by simp [Session.fits_create]) rfl⟩) (by simp [DeskCall.hands]))).1

end Host

end ReplHost
