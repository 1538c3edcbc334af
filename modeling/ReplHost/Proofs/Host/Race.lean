import ReplHost.Proofs.Host.Launch

/-! # Two binds of one name at once

  The activation controller is shared between threads, and binding is not
  one atomic step. It installs the session in the controller's registry,
  looks for the entry of the session's name, and then either puts the
  session into that entry and disposes the session the entry showed, or
  makes a surface and adds a new entry. It then gives the entry the hook,
  routes the session's output to it, selects it, and subscribes the
  controller the first time. Each of these sections holds only its own
  lock. `Host.BindStage` says how far one bind has come, and
  `BindStage.next` runs its next section. Run alone, one after the other,
  the sections are the bind (`alone_eq_bind`).

  `Host.Race` is two binds, of sessions `s₁` and `s₂`, on one host; each
  section is one step, and a trace of booleans chooses which bind moves.
  When both sessions are named `n`, and the desk has no entry named `n` and
  nothing registered under it, every interleaving ends with
  (`binds_of_one_name`):

  - the registry holding one of the two sessions under `n`, and the other
    disposed;
  - one or two entries named `n`, each showing one of the two sessions.

  Two entries are left when both binds look for the entry before either
  adds one; when the first finds the entry the second added, the one entry
  left shows the first session while the second is filed, and both are
  disposed (`binds_of_one_name_split`). Run one after the other on such a
  desk, the binds are two calls of `bind` and leave exactly one entry named
  `n`, showing the session filed under it with the state it had, the other
  disposed. A session bound before its namesake and bound again after it,
  though, ends shown, filed and disposed.
-/

namespace ReplHost

variable {T : Type}

namespace Host

variable {h h' h'' : Host T} {c : Controller} {r : Host T → Host T} {s s₁ s₂ k k₀ : Nat} {n : String}
  {x : Session}

/-! ### The sections of a bind -/

/-- The name a bind files session `s` under: its display name. -/
def nameOf (h : Host T) (s : Nat) : String := ((h.session? s).map (·.name)).getD ""

/-- How far one bind has come; each stage names the section run next. -/
inductive BindStage where
  /-- Installing the session in the controller's registry. -/
  | install
  /-- Looking for the entry of the session's name. -/
  | look
  /-- Putting the session into the entry found, rendering into `k`. -/
  | rebind (k : Nat)
  /-- Disposing `prev`, which entry `k` showed, unless it is the session. -/
  | release (k : Nat) (prev : Option Nat)
  /-- Making the surface of a new entry, none having been found. -/
  | create
  /-- Adding the new entry, rendering into `k` and showing the session. -/
  | add (k : Nat)
  /-- Giving entry `k` the controller's hook. -/
  | hook (k : Nat)
  /-- Routing the session's output to surface `k`. -/
  | attach (k : Nat)
  /-- Selecting the entry. -/
  | select
  /-- Subscribing the controller, the first time. -/
  | subscribe
  /-- Finished. -/
  | done
  deriving DecidableEq, Repr

/-- The last section of a bind: the first bind subscribes the controller,
    and makes the container hide itself when empty if the settings ask. -/
def subscribeOnce (h : Host T) : Host T :=
  h.controller.elim h fun c =>
    if c.bound then h
    else { h with
      container := { h.container with
        autoHide := c.settings.hideWhenEmpty || h.container.autoHide
        subscriptions := h.container.subscriptions + 1 }
      controller := some { c with bound := true } }

/-- Runs the next section of a bind of session `s`; the container's
    notifications respawn by `r`. -/
def BindStage.next (r : Host T → Host T) (s : Nat) : BindStage → Host T → BindStage × Host T
  | .install, h => (.look, h.install .controller s)
  | .look, h => ((h.container.find? (h.nameOf s)).elim .create fun e => .rebind e.surface, h)
  | .rebind k, h =>
    (.release k ((h.container.entries.find? (·.surface = k)).bind (·.session)),
      h.setEntry k fun e => { e with session := some s })
  | .release k prev, h => (.hook k, prev.elim h fun p => if p ≠ s then h.dispose p else h)
  | .create, h => (.add (h.createSurface (h.nameOf s)).2, (h.createSurface (h.nameOf s)).1)
  | .add k, h =>
    (.hook k, notifyWith r { h with container := { h.container with
      entries := h.container.entries ++ [{ name := h.nameOf s, surface := k, session := some s }] } })
  | .hook k, h => (.attach k, h.setEntry k fun e => { e with hooked := true })
  | .attach k, h => (.select, h.attach s k)
  | .select, h => (.subscribe, { h with container := { h.container with selected := some (h.nameOf s) } })
  | .subscribe, h => (.done, h.subscribeOnce)
  | .done, h => (.done, h)

/-! ### Every section only moves the host on -/

theorem frame_of_sessions (hb : h'.bridged = h.bridged) (hk : h'.sinks = h.sinks)
    (hs : h'.sessions = h.sessions) : Frame h h' :=
  ⟨hb, Nat.le_of_eq (congrArg Array.size hk.symm), by rw [hs], .of_sessions hs⟩

theorem frame_install (s : Nat) : Frame h (h.install .controller s) := by
  unfold install
  split
  · -- a different session registered under the name is disposed first
    refine Frame.trans ?_ (frame_setRegistry _ _)
    split
    · split
      · exact aside_dispose.frame
      · exact .refl h
    · exact .refl h
  · exact .refl h

theorem frame_createSurface (name : String) : Frame h (h.createSurface name).1 :=
  ⟨rfl, by simp [createSurface, addSink], rfl, .of_sessions rfl⟩

theorem frame_subscribeOnce (h : Host T) : Frame h h.subscribeOnce := by
  unfold subscribeOnce
  cases h.controller with
  | none => exact .refl h
  | some c =>
    simp only [Option.elim]
    split
    · exact .refl h
    · exact frame_of_sessions rfl rfl rfl

/-- Each section of a bind only moves the host on. -/
theorem frame_next (r : Host T → Host T) (s : Nat) (st : BindStage) (h : Host T) :
    Frame h (st.next r s h).2 := by
  cases st with
  | install => exact frame_install s
  | look => exact .refl h
  | rebind k => exact frame_setEntry h k _
  | release k prev =>
    cases prev with
    | none => exact .refl h
    | some p =>
      simp only [BindStage.next, Option.elim]
      split
      · exact aside_dispose.frame
      · exact .refl h
  | create => exact frame_createSurface _
  | add k =>
    simp only [BindStage.next]
    rw [notifyWith_of_ne_nil r (by simp)]
    exact frame_withContainer h _
  | hook k => exact frame_setEntry h k _
  | attach k => exact (aside_attach k).frame
  | select => exact frame_withContainer h _
  | subscribe => exact frame_subscribeOnce h
  | done => exact .refl h

/-- A session keeps its name along a frame, and one that is not there stays
    away. -/
theorem Frame.nameOf (hf : Frame h h') : h'.nameOf s = h.nameOf s := by
  cases hx : h.session? s with
  | some x =>
    obtain ⟨x', hx', hn, -⟩ := hf.sessions s x hx
    simp [Host.nameOf, hx, hx', hn]
  | none =>
    have hsize : h'.sessions.size ≤ s := by
      rw [hf.count]
      simpa [session?] using hx
    have hx' : h'.session? s = none := by simp [session?, hsize]
    simp [Host.nameOf, hx, hx']

/-- The sections after the install leave the controller's registry, and the
    controller there. -/
theorem desk_next {st : BindStage} (hst : st ≠ .install) :
    (st.next r s h).2.controllerRegistry = h.controllerRegistry ∧
      (st.next r s h).2.controller.isSome = h.controller.isSome := by
  cases st with
  | install => exact absurd rfl hst
  | release k prev =>
    cases prev with
    | none => exact ⟨rfl, rfl⟩
    | some p =>
      simp only [BindStage.next, Option.elim]
      split
      · simp [controllerRegistry]
      · exact ⟨rfl, rfl⟩
  | add k =>
    simp only [BindStage.next]
    rw [notifyWith_of_ne_nil r (by simp)]
    exact ⟨rfl, rfl⟩
  | attach k => simp [BindStage.next, controllerRegistry]
  | subscribe =>
    simp only [BindStage.next, subscribeOnce]
    cases hc : h.controller with
    | none => simp [hc]
    | some c =>
      simp only [Option.elim]
      split
      · simp [hc]
      · simp [controllerRegistry, hc]
  | look | rebind k | create | hook k | select | done => exact ⟨rfl, rfl⟩

theorem container_install (s : Nat) : (h.install .controller s).container = h.container := by
  unfold install
  split
  · rw [setRegistry_container]
    split
    · split
      · exact dispose_container h _
      · rfl
    · rfl
  · rfl

theorem entries_subscribeOnce (h : Host T) : h.subscribeOnce.container.entries = h.container.entries := by
  unfold subscribeOnce
  cases h.controller with
  | none => rfl
  | some c =>
    simp only [Option.elim]
    split <;> rfl

/-- A session of name `n` keeps it along a frame. -/
theorem Frame.named (hf : Frame h h') (hn : ∃ x, h.session? s = some x ∧ x.name = n) :
    ∃ x, h'.session? s = some x ∧ x.name = n := by
  obtain ⟨x, hx, rfl⟩ := hn
  obtain ⟨x', hx', hname, -⟩ := hf.sessions s x hx
  exact ⟨x', hx', hname⟩

/-- No section goes back to installing. -/
theorem next_ne_install (st : BindStage) : (st.next r s h).1 ≠ .install := by
  cases st <;> simp only [BindStage.next] <;> try (intro h; cases h)
  -- looking goes on to rebind or create
  cases h.container.find? (h.nameOf s) <;> simp [Option.elim]

/-! ### Run alone, the sections are the bind -/

@[simp] theorem nameOf_attach (h : Host T) (t k s : Nat) : (h.attach t k).nameOf s = h.nameOf s :=
  (aside_attach k).frame.nameOf

@[simp] theorem nameOf_dispose (h : Host T) (t s : Nat) : (h.dispose t).nameOf s = h.nameOf s :=
  aside_dispose.frame.nameOf

@[simp] theorem nameOf_setEntry (h : Host T) (k : Nat) (f : Entry → Entry) (s : Nat) :
    (h.setEntry k f).nameOf s = h.nameOf s := rfl

@[simp] theorem nameOf_withContainer (h : Host T) (k : Container) (s : Nat) :
    ({ h with container := k } : Host T).nameOf s = h.nameOf s := rfl

@[simp] theorem nameOf_createSurface (h : Host T) (name : String) (s : Nat) :
    (h.createSurface name).1.nameOf s = h.nameOf s := rfl

/-- The next section of a bind of `s` run alone. -/
def BindStage.advance (r : Host T → Host T) (s : Nat) (p : BindStage × Host T) : BindStage × Host T :=
  p.1.next r s p.2

/-- Binding is putting the content in, then subscribing the first time. -/
theorem bind_fst (r : Host T → Host T) (h : Host T) (s : Nat) :
    (bind r h s).1 = (installContent r h s).1.subscribeOnce := by
  unfold bind subscribeOnce
  rcases installContent r h s with ⟨H, name⟩
  cases hc : H.controller with
  | none => simp [hc]
  | some c =>
    simp only [hc, Option.elim]
    split <;> rfl

/-- Run alone, the eight sections of a bind are the bind, when the entry of
    the session's name is the first to render into its surface. -/
theorem alone_eq_bind (hfirst : ∀ e ∈ h.container.find? (h.nameOf s),
      h.container.entries.find? (·.surface = e.surface) = some e) :
    Nat.iterate (BindStage.advance r s) 8 (.install, h) = (.done, (bind r h s).1) := by
  rw [bind_fst]
  have hname : (h.install .controller s).nameOf s = h.nameOf s := (frame_install s).nameOf
  have hfold : ∀ h' : Host T, ((h'.session? s).map (·.name)).getD "" = h'.nameOf s := fun _ => rfl
  -- eight sections, each one `advance`
  show BindStage.advance r s (BindStage.advance r s (BindStage.advance r s (BindStage.advance r s
    (BindStage.advance r s (BindStage.advance r s (BindStage.advance r s (BindStage.advance r s
      (.install, h)))))))) = _
  cases hfind : (h.install .controller s).container.find? ((h.install .controller s).nameOf s) with
  | none =>
    have hlook : BindStage.advance r s (BindStage.advance r s (.install, h)) =
        (.create, h.install .controller s) := by
      simp only [BindStage.advance, BindStage.next, hfind, Option.elim]
    rw [hlook]
    simp only [BindStage.advance, BindStage.next, installContent, addEntry_eq, hfold, hfind]
    rw [notifyWith_of_ne_nil r (by simp)]
    simp only [nameOf_attach, nameOf_setEntry, nameOf_withContainer, nameOf_createSurface]
    rfl
  | some e =>
    -- the entry found is the first to render into its surface, so rebinding
    -- it reads back the session it showed
    have hprev : (h.install .controller s).container.entries.find? (·.surface = e.surface) = some e := by
      rw [container_install]
      exact hfirst e (by rw [← hname, ← container_install s]; exact hfind)
    have hrebind : BindStage.advance r s (BindStage.advance r s (BindStage.advance r s (.install, h))) =
        (.release e.surface e.session,
          (h.install .controller s).setEntry e.surface fun e => { e with session := some s }) := by
      simp only [BindStage.advance, BindStage.next, hfind, Option.elim, hprev, Option.bind_some]
    rw [hrebind]
    -- both dispose what the entry showed, unless it is the session itself
    cases hes : e.session with
    | none =>
      simp only [BindStage.advance, BindStage.next, installContent, hfold, hfind, hes,
        Option.elim, nameOf_attach, nameOf_setEntry]
    | some p =>
      by_cases hps : p = s <;>
        simp only [BindStage.advance, BindStage.next, installContent, hfold, hfind, hes,
          Option.elim, hps, ne_eq, not_true_eq_false, not_false_eq_true, if_true, if_false,
          nameOf_attach, nameOf_setEntry, nameOf_dispose]

/-- Binding a session whose name an entry bears: that entry shows the
    session and gets the hook, the registry takes the session under the
    name, and a different session registered there before is disposed. -/
theorem bind_found (hc : h.controller = some c) (hx : h.session? s = some x)
    (he : h.container.find? x.name = some e) :
    (bind r h s).1.container.entries = h.container.entries.map (fun e' =>
        if e'.surface = e.surface then { e' with session := some s, hooked := true } else e') ∧
      (bind r h s).1.controllerRegistry = c.registry.set x.name s ∧
      ∀ p, c.registry.find? x.name = some p → p ≠ s → (bind r h s).1.stateOf p = .disposed := by
  obtain ⟨H, -, hprev, hctrl, hcont, hic⟩ := installContent_found r hc hx he
  rw [bind_eq r hic hctrl]
  refine ⟨?_, ?_, fun p hp hps => ?_⟩
  · split <;> simp [hcont]
  · split <;> simp [controllerRegistry, hctrl]
  · have hd := hprev p hp hps
    split
    · exact hd
    · rw [← hd]
      rfl

/-! ### Two binds at once -/

namespace BindStage

/-- Whether the bind has installed its session in the registry. -/
def installed : BindStage → Bool
  | .install => false
  | _ => true

/-- Whether the bind has found the entry of its name or added one. -/
def placed : BindStage → Bool
  | .install | .look | .create | .add _ => false
  | _ => true

/-- The surface the bind holds, once it found or made one. -/
def surface? : BindStage → Option Nat
  | .rebind k | .release k _ | .add k | .hook k | .attach k => some k
  | _ => none

/-- How many sections the bind has left to run. -/
def left : BindStage → Nat
  | .install => 8
  | .look => 7
  | .rebind _ | .create => 6
  | .release _ _ | .add _ => 5
  | .hook _ => 4
  | .attach _ => 3
  | .select => 2
  | .subscribe => 1
  | .done => 0

theorem left_eq_zero {st : BindStage} : st.left = 0 ↔ st = .done := by
  cases st <;> simp [left]

/-- Each section brings the bind one nearer its end, on either path. -/
theorem left_next (r : Host T → Host T) (s : Nat) (st : BindStage) (h : Host T) :
    (st.next r s h).1.left = st.left - 1 := by
  cases st <;> try rfl
  -- looking goes on to rebind or create, both six sections from the end
  simp only [next]
  cases h.container.find? (h.nameOf s) <;> rfl

theorem installed_of_ne_install {st : BindStage} (hst : st ≠ .install) : st.installed = true := by
  cases st <;> simp_all [installed]

end BindStage

/-- What the registry holds under `n` after the installs made so far: nothing
    before either, the one session installed alone, and after both, one of
    the two with the other disposed. -/
def Filed (h : Host T) (n : String) (s₁ s₂ : Nat) (i₁ i₂ : Bool) : Prop :=
  if i₁ then
    if i₂ then (h.controllerRegistry.find? n = some s₁ ∧ h.stateOf s₂ = .disposed) ∨
        (h.controllerRegistry.find? n = some s₂ ∧ h.stateOf s₁ = .disposed)
    else h.controllerRegistry.find? n = some s₁
  else if i₂ then h.controllerRegistry.find? n = some s₂
  else h.controllerRegistry.find? n = none

theorem Filed.swap {i₁ i₂ : Bool} (hf : h.Filed n s₁ s₂ i₁ i₂) : h.Filed n s₂ s₁ i₂ i₁ := by
  cases i₁ <;> cases i₂ <;> simpa [Filed, or_comm] using hf

/-- The registry under `n` stays, and a disposed session stays disposed. -/
theorem Filed.of_frame {i₁ i₂ : Bool} (hf : Frame h h')
    (hreg : h'.controllerRegistry.find? n = h.controllerRegistry.find? n)
    (hfiled : h.Filed n s₁ s₂ i₁ i₂) : h'.Filed n s₁ s₂ i₁ i₂ := by
  cases i₁ <;> cases i₂ <;> simp only [Filed, hreg, if_true, if_false, Bool.false_eq_true] at hfiled ⊢
  · exact hfiled
  · exact hfiled
  · exact hfiled
  · rcases hfiled with ⟨h₁, h₂⟩ | ⟨h₁, h₂⟩
    · exact .inl ⟨h₁, hf.stateOf h₂⟩
    · exact .inr ⟨h₁, hf.stateOf h₂⟩

/-- The entries are `old`, then those the binds added: each named `n`,
    showing one of the two sessions and rendering into a surface numbered
    `k₀` or more; at most one for each bind that placed its session (`p₁`,
    `p₂`), and at least one once a bind did. -/
def Added (h : Host T) (n : String) (s₁ s₂ : Nat) (old : List Entry) (k₀ : Nat) (p₁ p₂ : Bool) : Prop :=
  ∃ added, h.container.entries = old ++ added ∧
    (∀ e ∈ added, e.name = n ∧ (e.session = some s₁ ∨ e.session = some s₂) ∧ k₀ ≤ e.surface) ∧
    added.length ≤ p₁.toNat + p₂.toNat ∧ (p₁ = true ∨ p₂ = true → added ≠ [])

section Added

variable {old : List Entry} {p₁ p₂ : Bool}

theorem Added.swap (ha : h.Added n s₁ s₂ old k₀ p₁ p₂) : h.Added n s₂ s₁ old k₀ p₂ p₁ := by
  obtain ⟨added, hentries, hadded, hlen, hne⟩ := ha
  refine ⟨added, hentries, fun e he => ?_, by omega, fun hp => hne hp.symm⟩
  obtain ⟨hn, hs, hk⟩ := hadded e he
  exact ⟨hn, hs.symm, hk⟩

theorem Added.of_entries (he : h'.container.entries = h.container.entries)
    (ha : h.Added n s₁ s₂ old k₀ p₁ p₂) : h'.Added n s₁ s₂ old k₀ p₁ p₂ := by
  unfold Added
  rw [he]
  exact ha

/-- Changing the entries that render into a surface made since keeps the
    old entries, and keeps what the added ones are when the change keeps
    names and surfaces and shows the first session or what was shown. -/
theorem Added.setEntry {f : Entry → Entry} (hold : ∀ e ∈ old, e.surface < k₀) (hk : k₀ ≤ k)
    (hname : ∀ e, (f e).name = e.name) (hsurface : ∀ e, (f e).surface = e.surface)
    (hsession : ∀ e, (f e).session = e.session ∨ (f e).session = some s₁)
    (ha : h.Added n s₁ s₂ old k₀ p₁ p₂) : (h.setEntry k f).Added n s₁ s₂ old k₀ p₁ p₂ := by
  obtain ⟨added, hentries, hadded, hlen, hne⟩ := ha
  let g : Entry → Entry := fun e => if e.surface = k then f e else e
  have hkeep : old.map g = old := map_surface_of_lt fun e he => Nat.lt_of_lt_of_le (hold e he) hk
  refine ⟨added.map g, ?_, ?_, by simpa using hlen, by simpa using hne⟩
  · rw [setEntry_container, hentries, List.map_append, hkeep]
  · simp only [List.mem_map]
    rintro _ ⟨e, he, rfl⟩
    obtain ⟨hn, hs, hk'⟩ := hadded e he
    by_cases hek : e.surface = k
    · simp only [g, hek, if_true, hname, hsurface]
      refine ⟨hn, ?_, hek ▸ hk'⟩
      rcases hsession e with h' | h'
      · rw [h']
        exact hs
      · exact .inl h'
    · simp only [g, hek, if_false]
      exact ⟨hn, hs, hk'⟩

/-- Adding an entry of the first session, named `n` and rendering into a
    surface made since, places it. -/
theorem Added.push (hk : k₀ ≤ k) (ha : h.Added n s₁ s₂ old k₀ false p₂) :
    Added { h with container := { h.container with
      entries := h.container.entries ++ [{ name := n, surface := k, session := some s₁ }] } }
      n s₁ s₂ old k₀ true p₂ := by
  obtain ⟨added, hentries, hadded, hlen, -⟩ := ha
  refine ⟨added ++ [{ name := n, surface := k, session := some s₁ }], by simp [hentries], ?_, ?_, by simp⟩
  · intro e he
    rcases List.mem_append.mp he with he | he
    · exact hadded e he
    · simp only [List.mem_singleton] at he
      subst he
      exact ⟨rfl, .inl rfl, hk⟩
  · simp only [List.length_append, List.length_singleton, Bool.toNat_true]
    simp only [Bool.toNat_false] at hlen
    omega

/-- Finding the entry of `n` places the bind: it is one the binds added. -/
theorem Added.found (hold : ∀ e ∈ old, e.name ≠ n) (hfind : h.container.find? n = some e)
    (ha : h.Added n s₁ s₂ old k₀ false p₂) : h.Added n s₁ s₂ old k₀ true p₂ ∧ k₀ ≤ e.surface := by
  obtain ⟨added, hentries, hadded, hlen, -⟩ := ha
  have hname : e.name = n := by simpa using List.find?_some hfind
  have hmem : e ∈ old ++ added := hentries ▸ List.mem_of_find?_eq_some hfind
  have hadd : e ∈ added := by
    rcases List.mem_append.mp hmem with he | he
    · exact absurd hname (hold e he)
    · exact he
  refine ⟨⟨added, hentries, hadded, ?_, fun _ => List.ne_nil_of_mem hadd⟩, (hadded e hadd).2.2⟩
  simp only [Bool.toNat_false] at hlen
  simp only [Bool.toNat_true]
  omega

end Added

/-- Two binds at once on one host. -/
structure Race (T : Type) where
  /-- The host. -/
  host : Host T
  /-- How far the bind of the first session has come. -/
  one : BindStage
  /-- How far the bind of the second session has come. -/
  two : BindStage

namespace Race

/-- One section of either bind, of session `s₁` for `true` and of `s₂` for
    `false`; a finished bind does not move. -/
def move (r : Host T → Host T) (s₁ s₂ : Nat) (σ : Race T) : Bool → Race T
  | true => { σ with host := (σ.one.next r s₁ σ.host).2, one := (σ.one.next r s₁ σ.host).1 }
  | false => { σ with host := (σ.two.next r s₂ σ.host).2, two := (σ.two.next r s₂ σ.host).1 }

/-- The race after the sections a trace chooses, in order. -/
def run (r : Host T → Host T) (s₁ s₂ : Nat) (σ : Race T) (trace : List Bool) : Race T :=
  trace.foldl (move r s₁ s₂) σ

theorem run_append (σ : Race T) (t₁ t₂ : List Bool) :
    σ.run r s₁ s₂ (t₁ ++ t₂) = (σ.run r s₁ s₂ t₁).run r s₁ s₂ t₂ :=
  List.foldl_append

/-- The two binds exchanged. -/
def swap (σ : Race T) : Race T := ⟨σ.host, σ.two, σ.one⟩

theorem move_swap (σ : Race T) (b : Bool) : (σ.move r s₁ s₂ b).swap = σ.swap.move r s₂ s₁ (!b) := by
  cases b <;> rfl

/-- What holds along every interleaving of two binds of sessions named `n`
    into a desk whose entries `old` bear other names. -/
structure Inv (n : String) (s₁ s₂ : Nat) (old : List Entry) (k₀ : Nat) (σ : Race T) : Prop where
  /-- The controller is there. -/
  controller : σ.host.controller.isSome
  /-- The first session exists, named `n`. -/
  first : ∃ x, σ.host.session? s₁ = some x ∧ x.name = n
  /-- The second session exists, named `n`. -/
  second : ∃ x, σ.host.session? s₂ = some x ∧ x.name = n
  /-- What the registry holds under `n`. -/
  filed : σ.host.Filed n s₁ s₂ σ.one.installed σ.two.installed
  /-- The old entries, then those the binds added, rendering into surfaces
      made since. -/
  entries : σ.host.Added n s₁ s₂ old k₀ σ.one.placed σ.two.placed
  /-- The surfaces the binds hold were made since. -/
  held : (∀ k, σ.one.surface? = some k → k₀ ≤ k) ∧ ∀ k, σ.two.surface? = some k → k₀ ≤ k
  /-- Sinks are only added. -/
  sinks : k₀ ≤ σ.host.sinks.size

theorem Inv.swap {old : List Entry} {σ : Race T} (hi : Inv n s₁ s₂ old k₀ σ) : Inv n s₂ s₁ old k₀ σ.swap :=
  ⟨hi.controller, hi.second, hi.first, hi.filed.swap, hi.entries.swap, ⟨hi.held.2, hi.held.1⟩, hi.sinks⟩

/-- A section of the first bind leaves the controller there, and files what
    `Filed` says after it: its install puts the first session under `n` and
    disposes the second if that was there; the later sections leave the
    registry. -/
theorem Inv.filed_move_one {old : List Entry} {σ : Race T} (hne : s₁ ≠ s₂)
    (hi : Inv n s₁ s₂ old k₀ σ) :
    (σ.move r s₁ s₂ true).host.controller.isSome ∧
      (σ.move r s₁ s₂ true).host.Filed n s₁ s₂ (σ.move r s₁ s₂ true).one.installed σ.two.installed := by
  simp only [move]
  by_cases hst : σ.one = .install
  · obtain ⟨c, hc⟩ := Option.isSome_iff_exists.mp hi.controller
    obtain ⟨x, hx, hxn⟩ := hi.first
    obtain ⟨h₀, ha, hprev, hinst⟩ := install_controller hc hx
    have hc₀ : h₀.controller = some c := ha.controller.trans hc
    have hfiled := hi.filed
    have hreg : (h₀.setRegistry .controller (c.registry.set x.name s₁)).controllerRegistry.find? n = some s₁ := by
      simp [controllerRegistry, hc₀, hxn]
    rw [hst]
    rw [hst] at hfiled
    have hlook : BindStage.look.installed = true := rfl
    have hinstall : BindStage.install.installed = false := rfl
    simp only [BindStage.next, hinst, setRegistry_controller, hc₀, Option.map_some, Option.isSome_some,
      true_and, hlook]
    cases hi₂ : σ.two.installed
    · simpa [Filed] using hreg
    · simp only [Filed, hi₂, hinstall, controllerRegistry_of hc, if_true, if_false,
        Bool.false_eq_true] at hfiled ⊢
      refine .inl ⟨hreg, ?_⟩
      rw [stateOf_setRegistry]
      exact hprev s₂ (hxn ▸ hfiled) (Ne.symm hne)
  · obtain ⟨hreg, hctl⟩ := desk_next (r := r) (s := s₁) (h := σ.host) hst
    have hsame : (σ.one.next r s₁ σ.host).1.installed = σ.one.installed := by
      rw [BindStage.installed_of_ne_install (next_ne_install σ.one), BindStage.installed_of_ne_install hst]
    rw [hsame]
    exact ⟨hctl ▸ hi.controller, Filed.of_frame (frame_next r s₁ σ.one σ.host) (by rw [hreg]) hi.filed⟩

/-- A section of the first bind keeps the entries the old ones followed by
    those the binds added, and the surface it holds one made since. Only
    looking, adding and the two changes of an entry are more than a frame:
    a found entry is one the binds added, since the old ones bear other
    names. -/
theorem Inv.entries_move_one {old : List Entry} {σ : Race T}
    (hold : ∀ e ∈ old, e.name ≠ n ∧ e.surface < k₀) (hi : Inv n s₁ s₂ old k₀ σ) :
    (σ.move r s₁ s₂ true).host.Added n s₁ s₂ old k₀ (σ.move r s₁ s₂ true).one.placed σ.two.placed ∧
      ∀ k, (σ.move r s₁ s₂ true).one.surface? = some k → k₀ ≤ k := by
  obtain ⟨h, one, two⟩ := σ
  have hsurface : ∀ e ∈ old, e.surface < k₀ := fun e he => (hold e he).2
  have ha : h.Added n s₁ s₂ old k₀ one.placed two.placed := hi.entries
  have hheld : ∀ k, one.surface? = some k → k₀ ≤ k := hi.held.1
  have hname : h.nameOf s₁ = n := by
    obtain ⟨x, hx, hxn⟩ := hi.first
    simp [nameOf, hx, hxn]
  simp only [move]
  cases one with
  | install =>
    refine ⟨ha.of_entries ?_, by simp [BindStage.next, BindStage.surface?]⟩
    simp only [BindStage.next, container_install]
  | look =>
    simp only [BindStage.next]
    cases hfind : h.container.find? (h.nameOf s₁) with
    | none => exact ⟨ha, by simp [BindStage.surface?]⟩
    | some e =>
      rw [hname] at hfind
      obtain ⟨hfound, hk⟩ := ha.found (fun e he => (hold e he).1) hfind
      exact ⟨hfound, fun k hk' => Option.some.inj hk' ▸ hk⟩
  | rebind k =>
    have hk := hheld k rfl
    exact ⟨ha.setEntry hsurface hk (fun _ => rfl) (fun _ => rfl) (fun _ => .inr rfl),
      fun k' hk' => Option.some.inj hk' ▸ hk⟩
  | release k prev =>
    refine ⟨ha.of_entries ?_, fun k' hk' => Option.some.inj hk' ▸ hheld k rfl⟩
    cases prev with
    | none => rfl
    | some p =>
      simp only [BindStage.next, Option.elim]
      split <;> simp
  | create => exact ⟨ha.of_entries rfl, fun k' hk' => Option.some.inj hk' ▸ hi.sinks⟩
  | add k =>
    have hk := hheld k rfl
    simp only [BindStage.next]
    rw [notifyWith_of_ne_nil r (by simp), hname]
    exact ⟨ha.push hk, fun k' hk' => Option.some.inj hk' ▸ hk⟩
  | hook k =>
    have hk := hheld k rfl
    exact ⟨ha.setEntry hsurface hk (fun _ => rfl) (fun _ => rfl) (fun _ => .inl rfl),
      fun k' hk' => Option.some.inj hk' ▸ hk⟩
  | attach k =>
    exact ⟨ha.of_entries (congrArg Container.entries (attach_container h s₁ k)),
      by simp [BindStage.next, BindStage.surface?]⟩
  | select => exact ⟨ha.of_entries rfl, by simp [BindStage.next, BindStage.surface?]⟩
  | subscribe =>
    exact ⟨ha.of_entries (entries_subscribeOnce h), by simp [BindStage.next, BindStage.surface?]⟩
  | done => exact ⟨ha, by simp [BindStage.next, BindStage.surface?]⟩

/-- The step: either bind's next section keeps the invariant. -/
theorem Inv.move_one {old : List Entry} {σ : Race T} (hold : ∀ e ∈ old, e.name ≠ n ∧ e.surface < k₀)
    (hne : s₁ ≠ s₂) (hi : Inv n s₁ s₂ old k₀ σ) : Inv n s₁ s₂ old k₀ (σ.move r s₁ s₂ true) := by
  have hf := frame_next r s₁ σ.one σ.host
  obtain ⟨hctl, hfiled⟩ := hi.filed_move_one (r := r) hne
  obtain ⟨hadded, hheld⟩ := hi.entries_move_one (r := r) hold
  exact ⟨hctl, hf.named hi.first, hf.named hi.second, hfiled, hadded, ⟨hheld, hi.held.2⟩,
    hi.sinks.trans hf.sinks⟩

theorem Inv.move {old : List Entry} {σ : Race T} (hold : ∀ e ∈ old, e.name ≠ n ∧ e.surface < k₀)
    (hne : s₁ ≠ s₂) (hi : Inv n s₁ s₂ old k₀ σ) (b : Bool) :
    Inv n s₁ s₂ old k₀ (σ.move r s₁ s₂ b) := by
  cases b with
  | true => exact hi.move_one hold hne
  | false =>
    -- the second bind moves as the first of the race with the binds exchanged
    have hswapped := hi.swap.move_one (r := r) hold (Ne.symm hne)
    rw [← Bool.not_false, ← move_swap] at hswapped
    exact hswapped.swap

/-- The run: the invariant holds after every interleaving. -/
theorem Inv.run {old : List Entry} {σ : Race T} (hold : ∀ e ∈ old, e.name ≠ n ∧ e.surface < k₀)
    (hne : s₁ ≠ s₂) (hi : Inv n s₁ s₂ old k₀ σ) (trace : List Bool) :
    Inv n s₁ s₂ old k₀ (σ.run r s₁ s₂ trace) := by
  induction trace generalizing σ with
  | nil => exact hi
  | cons b trace ih => exact ih (hi.move hold hne b)

/-- The first bind has run one section for each `true` of the trace. -/
theorem left_run_one (σ : Race T) (trace : List Bool) :
    (σ.run r s₁ s₂ trace).one.left = σ.one.left - trace.count true := by
  induction trace generalizing σ with
  | nil => rfl
  | cons b trace ih =>
    cases b with
    | true =>
      have hstep := BindStage.left_next r s₁ σ.one σ.host
      simp only [run, List.foldl] at ih ⊢
      rw [ih, List.count_cons_self]
      simp only [move]
      omega
    | false =>
      simp only [run, List.foldl] at ih ⊢
      rw [ih, List.count_cons_of_ne (by decide)]
      rfl

/-- The second bind has run one section for each `false` of the trace. -/
theorem left_run_two (σ : Race T) (trace : List Bool) :
    (σ.run r s₁ s₂ trace).two.left = σ.two.left - trace.count false := by
  induction trace generalizing σ with
  | nil => rfl
  | cons b trace ih =>
    cases b with
    | true =>
      simp only [run, List.foldl] at ih ⊢
      rw [ih, List.count_cons_of_ne (by decide)]
      rfl
    | false =>
      have hstep := BindStage.left_next r s₂ σ.two σ.host
      simp only [run, List.foldl] at ih ⊢
      rw [ih, List.count_cons_self]
      simp only [move]
      omega

/-- Two binds that have not started, on a desk with the controller, both
    sessions named `n`, nothing filed under `n`, and entries of other names
    rendering into surfaces the host made. -/
theorem Inv.start (hc : h.controller = some c) (hx₁ : ∃ x, h.session? s₁ = some x ∧ x.name = n)
    (hx₂ : ∃ x, h.session? s₂ = some x ∧ x.name = n) (hreg : c.registry.find? n = none) :
    Inv n s₁ s₂ h.container.entries h.sinks.size ⟨h, .install, .install⟩ :=
  ⟨by simp [hc], hx₁, hx₂, by simp [Filed, BindStage.installed, controllerRegistry_of hc, hreg],
    ⟨[], by simp, by simp, by simp [BindStage.placed], by simp [BindStage.placed]⟩,
    ⟨by simp [BindStage.surface?], by simp [BindStage.surface?]⟩, Nat.le_refl _⟩

/-- A trace of `k` sections of the first bind runs it alone. -/
theorem run_replicate_true (k : Nat) (h : Host T) (st two : BindStage) :
    Race.run r s₁ s₂ ⟨h, st, two⟩ (List.replicate k true) =
      ⟨(Nat.iterate (BindStage.advance r s₁) k (st, h)).2,
        (Nat.iterate (BindStage.advance r s₁) k (st, h)).1, two⟩ := by
  induction k generalizing h st with
  | zero => rfl
  | succ k ih => exact ih (st.next r s₁ h).2 (st.next r s₁ h).1

/-- A trace of `k` sections of the second bind runs it alone. -/
theorem run_replicate_false (k : Nat) (h : Host T) (one st : BindStage) :
    Race.run r s₁ s₂ ⟨h, one, st⟩ (List.replicate k false) =
      ⟨(Nat.iterate (BindStage.advance r s₂) k (st, h)).2, one,
        (Nat.iterate (BindStage.advance r s₂) k (st, h)).1⟩ := by
  induction k generalizing h st with
  | zero => rfl
  | succ k ih => exact ih (st.next r s₂ h).2 (st.next r s₂ h).1

/-- Run one after the other, the two binds are binding twice. -/
theorem run_in_turn (hfirst₁ : ∀ e ∈ h.container.find? (h.nameOf s₁),
      h.container.entries.find? (·.surface = e.surface) = some e)
    (hfirst₂ : ∀ e ∈ (bind r h s₁).1.container.find? ((bind r h s₁).1.nameOf s₂),
      (bind r h s₁).1.container.entries.find? (·.surface = e.surface) = some e) :
    Race.run r s₁ s₂ ⟨h, .install, .install⟩ (List.replicate 8 true ++ List.replicate 8 false) =
      ⟨(bind r (bind r h s₁).1 s₂).1, .done, .done⟩ := by
  rw [run_append, run_replicate_true, alone_eq_bind hfirst₁, run_replicate_false, alone_eq_bind hfirst₂]

end Race

/-- What two binds of sessions `s₁` and `s₂` named `n` leave on a desk that
    had the entries `old`: one of the two filed under `n` and the other
    disposed, and one or two entries after the old ones, each named `n` and
    showing one of the two. -/
structure Settled (h : Host T) (n : String) (s₁ s₂ : Nat) (old : List Entry) : Prop where
  /-- One session is filed under `n`, the other is disposed. -/
  filed : (h.controllerRegistry.find? n = some s₁ ∧ h.stateOf s₂ = .disposed) ∨
    (h.controllerRegistry.find? n = some s₂ ∧ h.stateOf s₁ = .disposed)
  /-- The binds added one or two entries, of the two sessions. -/
  entries : ∃ added, h.container.entries = old ++ added ∧ 1 ≤ added.length ∧ added.length ≤ 2 ∧
    ∀ e ∈ added, e.name = n ∧ (e.session = some s₁ ∨ e.session = some s₂)

namespace Race

/-- Once both binds are done, the invariant says how they settled. -/
theorem Inv.settled {old : List Entry} {σ : Race T} (hi : Inv n s₁ s₂ old k₀ σ) (h₁ : σ.one = .done)
    (h₂ : σ.two = .done) : σ.host.Settled n s₁ s₂ old := by
  have hfiled := hi.filed
  obtain ⟨added, hentries, hadded, hlen, hne⟩ := hi.entries
  have hdone : BindStage.done.installed = true ∧ BindStage.done.placed = true := ⟨rfl, rfl⟩
  rw [h₁, h₂] at hfiled hlen hne
  simp only [Filed, hdone.1, if_true] at hfiled
  refine ⟨hfiled, added, hentries, ?_, ?_, fun e he => ?_⟩
  · have := hne (.inl hdone.2)
    exact List.length_pos_iff.mpr this
  · simpa [hdone.2] using hlen
  · obtain ⟨hn, hs, -⟩ := hadded e he
    exact ⟨hn, hs⟩

/-- Every interleaving that gives each bind its eight sections ends with
    both done, settled as `Settled` says. -/
theorem settled_run (hc : h.controller = some c) (hx₁ : ∃ x, h.session? s₁ = some x ∧ x.name = n)
    (hx₂ : ∃ x, h.session? s₂ = some x ∧ x.name = n) (hne : s₁ ≠ s₂) (hreg : c.registry.find? n = none)
    (hold : ∀ e ∈ h.container.entries, e.name ≠ n ∧ e.surface < h.sinks.size) (trace : List Bool)
    (h₁ : 8 ≤ trace.count true) (h₂ : 8 ≤ trace.count false) :
    (Race.run r s₁ s₂ ⟨h, .install, .install⟩ trace).host.Settled n s₁ s₂ h.container.entries := by
  have hi := (Inv.start hc hx₁ hx₂ hreg).run (r := r) hold hne trace
  have hone : (Race.run r s₁ s₂ ⟨h, .install, .install⟩ trace).one.left = _ := left_run_one _ trace
  have htwo : (Race.run r s₁ s₂ ⟨h, .install, .install⟩ trace).two.left = _ := left_run_two _ trace
  have height : BindStage.install.left = 8 := rfl
  rw [height] at hone htwo
  exact hi.settled (BindStage.left_eq_zero.mp (by omega)) (BindStage.left_eq_zero.mp (by omega))

end Race

/-- Of entries `old` followed by `e`, the first to pass a test that no old
    entry passes is `e`. -/
theorem find?_append_of_none {old : List Entry} {p : Entry → Bool} (hold : ∀ e' ∈ old, p e' = false)
    (he : p e = true) : (old ++ [e]).find? p = some e := by
  rw [List.find?_append, List.find?_eq_none.mpr fun e' h' => by simp [hold e' h']]
  simp [he]

/-- Run one after the other on a desk with no entry named `n` and nothing
    filed under it, the binds of two sessions named `n` leave exactly one
    entry named `n`: it shows the second session, which the registry holds
    under `n` with the state it had, and the first is disposed. The entry
    the second bind finds is the first to render into its surface. -/
theorem binds_in_turn (hc : h.controller = some c) (hx₁ : ∃ x, h.session? s₁ = some x ∧ x.name = n)
    (hx₂ : ∃ x, h.session? s₂ = some x ∧ x.name = n) (hne : s₁ ≠ s₂) (hreg : c.registry.find? n = none)
    (hold : ∀ e ∈ h.container.entries, e.name ≠ n ∧ e.surface < h.sinks.size) :
    (∃ e, (bind r (bind r h s₁).1 s₂).1.container.entries = h.container.entries ++ [e] ∧ e.name = n ∧
      e.session = some s₂) ∧
    (bind r (bind r h s₁).1 s₂).1.controllerRegistry.find? n = some s₂ ∧
    (bind r (bind r h s₁).1 s₂).1.stateOf s₁ = .disposed ∧
    (bind r (bind r h s₁).1 s₂).1.stateOf s₂ = h.stateOf s₂ ∧
    ∀ e ∈ (bind r h s₁).1.container.find? ((bind r h s₁).1.nameOf s₂),
      (bind r h s₁).1.container.entries.find? (·.surface = e.surface) = some e := by
  obtain ⟨x₁, hx₁, rfl⟩ := hx₁
  obtain ⟨x₂, hx₂, hn₂⟩ := hx₂
  -- the first bind adds the entry of the name, rendering into a new surface
  have hnone : h.container.find? x₁.name = none := by
    rw [Container.find?, List.find?_eq_none]
    intro e he
    simpa using (hold e he).1
  obtain ⟨⟨e₁, hentries₁, hname₁, -, hsurface₁⟩, hreg₁, hspare₁, -, hctl₁⟩ :=
    bind_fresh (r := r) hc hx₁ hnone hreg (fun e he => (hold e he).2)
  obtain ⟨c₁, hc₁⟩ := Option.isSome_iff_exists.mp hctl₁
  have hx₂' : (bind r h s₁).1.session? s₂ = some x₂ := by rw [hspare₁ s₂ (Ne.symm hne), hx₂]
  have hearlier : ∀ e ∈ h.container.entries, e.surface < e₁.surface :=
    fun e he => Nat.lt_of_lt_of_le (hold e he).2 hsurface₁
  -- the second bind finds it, and puts its session there
  have hfound : (bind r h s₁).1.container.find? x₂.name = some e₁ := by
    rw [Container.find?, hentries₁]
    exact find?_append_of_none (fun e he => by simpa [hn₂] using (hold e he).1) (by simp [hname₁, hn₂])
  obtain ⟨hentries₂, hreg₂, hprev⟩ := bind_found (r := r) hc₁ hx₂' hfound
  have hreg₁' : c₁.registry = c.registry.set x₁.name s₁ := by rw [← controllerRegistry_of hc₁, hreg₁]
  refine ⟨⟨{ e₁ with session := some s₂, hooked := true }, ?_, by simp [hname₁], rfl⟩, ?_, ?_, ?_, ?_⟩
  · rw [hentries₂, hentries₁, List.map_append, map_surface_of_lt hearlier]
    simp
  · rw [hreg₂, hn₂]
    exact Registry.find?_set _ _ _
  · exact hprev s₁ (by rw [hreg₁', hn₂]; exact Registry.find?_set _ _ _) hne
  · rw [bind_stateOf_self, stateOf_eq hx₂', stateOf_eq hx₂]
  · intro e he
    have hname : (bind r h s₁).1.nameOf s₂ = x₂.name := by simp [nameOf, hx₂']
    rw [hname, hfound] at he
    cases he
    rw [hentries₁]
    exact find?_append_of_none (fun e' he' => by simpa using Nat.ne_of_lt (hearlier e' he')) (by simp)

/-- Two binds of sessions named `n`, on a desk with the controller, no entry
    named `n`, nothing filed under it, and entries rendering into surfaces
    the host made. However their sections interleave, once each has run its
    eight, one session is filed under `n` and the other disposed, and one or
    two entries named `n` were added, each showing one of the two. Run one
    after the other they are two binds, leaving exactly one entry named `n`:
    it shows the second session, filed under `n` with the state it had, and
    the first is disposed. -/
theorem binds_of_one_name (hc : h.controller = some c) (hx₁ : ∃ x, h.session? s₁ = some x ∧ x.name = n)
    (hx₂ : ∃ x, h.session? s₂ = some x ∧ x.name = n) (hne : s₁ ≠ s₂) (hreg : c.registry.find? n = none)
    (hold : ∀ e ∈ h.container.entries, e.name ≠ n ∧ e.surface < h.sinks.size) :
    (∀ trace : List Bool, 8 ≤ trace.count true → 8 ≤ trace.count false →
      (Race.run r s₁ s₂ ⟨h, .install, .install⟩ trace).host.Settled n s₁ s₂ h.container.entries) ∧
    Race.run r s₁ s₂ ⟨h, .install, .install⟩ (List.replicate 8 true ++ List.replicate 8 false) =
      ⟨(bind r (bind r h s₁).1 s₂).1, .done, .done⟩ ∧
    (∃ e, (bind r (bind r h s₁).1 s₂).1.container.entries = h.container.entries ++ [e] ∧ e.name = n ∧
      e.session = some s₂) ∧
    (bind r (bind r h s₁).1 s₂).1.controllerRegistry.find? n = some s₂ ∧
    (bind r (bind r h s₁).1 s₂).1.stateOf s₁ = .disposed ∧
    (bind r (bind r h s₁).1 s₂).1.stateOf s₂ = h.stateOf s₂ := by
  obtain ⟨hentries, hreg₂, hdisposed, hstate, hfirst₂⟩ := binds_in_turn (r := r) hc hx₁ hx₂ hne hreg hold
  -- the first bind finds no entry of its name
  have hfirst₁ : ∀ e ∈ h.container.find? (h.nameOf s₁),
      h.container.entries.find? (·.surface = e.surface) = some e := by
    intro e he
    obtain ⟨x₁, hx₁, hn₁⟩ := hx₁
    have hname : h.nameOf s₁ = n := by simp [nameOf, hx₁, hn₁]
    have hmem := List.mem_of_find?_eq_some (Option.mem_def.mp he)
    have hen : e.name = n := by simpa [hname] using List.find?_some (Option.mem_def.mp he)
    exact absurd hen (hold e hmem).1
  exact ⟨Race.settled_run hc hx₁ hx₂ hne hreg hold, Race.run_in_turn hfirst₁ hfirst₂, hentries, hreg₂,
    hdisposed, hstate⟩

/-- A desk with the controller, no entries, and two sessions named `name`. -/
def twoNamed (name : String) : Host Empty :=
  ((({} : Host Empty).addSession (Session.create name (LaunchSpec.ofProgram "evcxr") {})).1.addSession
    (Session.create name (LaunchSpec.ofProgram "evcxr") {})).1

/-- Two binds of sessions named `n` into an empty desk settle, however they
    interleave. -/
theorem binds_into_empty_desk_settle :
    (twoNamed "n").controller = some {} ∧
    (∃ x, (twoNamed "n").session? 0 = some x ∧ x.name = "n") ∧
    (∃ x, (twoNamed "n").session? 1 = some x ∧ x.name = "n") ∧ (0 : Nat) ≠ 1 ∧
    ({} : Controller).registry.find? "n" = none ∧
    (∀ e ∈ (twoNamed "n").container.entries, e.name ≠ "n" ∧ e.surface < (twoNamed "n").sinks.size) ∧
    ∀ trace : List Bool, 8 ≤ trace.count true → 8 ≤ trace.count false →
      (Race.run respawn 0 1 ⟨twoNamed "n", .install, .install⟩ trace).host.Settled "n" 0 1
        (twoNamed "n").container.entries := by
  have hc : (twoNamed "n").controller = some {} := rfl
  have hx₁ : ∃ x, (twoNamed "n").session? 0 = some x ∧ x.name = "n" := ⟨_, rfl, rfl⟩
  have hx₂ : ∃ x, (twoNamed "n").session? 1 = some x ∧ x.name = "n" := ⟨_, rfl, rfl⟩
  have hreg : ({} : Controller).registry.find? "n" = none := rfl
  have hold : ∀ e ∈ (twoNamed "n").container.entries, e.name ≠ "n" ∧ e.surface < (twoNamed "n").sinks.size := by
    intro e he
    cases he
  exact ⟨hc, hx₁, hx₂, by decide, hreg, hold, (binds_of_one_name hc hx₁ hx₂ (by decide) hreg hold).1⟩

/-- Two binds of sessions named `n`, `0` and `1`, can leave two entries named
    `n`, when both look before either adds; or one entry showing `0` while
    `1` is filed under `n`, both disposed, when the first finds the entry
    the second added. One after the other, after an earlier bind of `1`,
    they leave `1` shown and filed under `n`, and disposed. -/
theorem binds_of_one_name_split :
    (Race.run respawn 0 1 ⟨twoNamed "n", .install, .install⟩
        (true :: true :: false :: false :: (List.replicate 6 true ++ List.replicate 6 false))).host.container.entries.map
      (fun e => (e.name, e.session)) = [("n", some 0), ("n", some 1)] ∧
    (Race.run respawn 0 1 ⟨twoNamed "n", .install, .install⟩
        (true :: false :: false :: false :: false :: (List.replicate 7 true ++ List.replicate 4 false))).host.container.entries.map
      (fun e => (e.name, e.session)) = [("n", some 0)] ∧
    (Race.run respawn 0 1 ⟨twoNamed "n", .install, .install⟩
        (true :: false :: false :: false :: false :: (List.replicate 7 true ++ List.replicate 4 false))).host.controllerRegistry.find?
      "n" = some 1 ∧
    (Race.run respawn 0 1 ⟨twoNamed "n", .install, .install⟩
        (true :: false :: false :: false :: false :: (List.replicate 7 true ++ List.replicate 4 false))).host.stateOf
      0 = .disposed ∧
    (Race.run respawn 0 1 ⟨twoNamed "n", .install, .install⟩
        (true :: false :: false :: false :: false :: (List.replicate 7 true ++ List.replicate 4 false))).host.stateOf
      1 = .disposed ∧
    (bind respawn (bind respawn (bind respawn (twoNamed "n") 1).1 0).1 1).1.container.entries.map
      (fun e => (e.name, e.session)) = [("n", some 1)] ∧
    (bind respawn (bind respawn (bind respawn (twoNamed "n") 1).1 0).1 1).1.controllerRegistry.find? "n" = some 1 ∧
    (bind respawn (bind respawn (bind respawn (twoNamed "n") 1).1 0).1 1).1.stateOf 1 = .disposed := by
  decide

end Host

end ReplHost
