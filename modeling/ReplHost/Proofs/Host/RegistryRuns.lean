import ReplHost.Proofs.Host.Race

/-! # A registry under every sequence of calls

  A registry of sessions by display name (the controller's or the host's
  own) takes five calls: `install` puts a session under its own name,
  `remove` takes a name out, `removeMatching` takes out the sessions a
  predicate holds of, and `find` and `all` read it. Taking a session out
  disposes it, and so does installing a different session over it.

  For every history of such calls on a registry that starts empty, with
  the sessions touched by nothing else:

  - looking up a name gives the session last installed under it, unless a
    later call took it out (`Host.Survives`): a removal of the name, or a
    removal by a predicate that held of it;
  - every session ever installed under a name, other than the one now
    registered there, is disposed;
  - each call disposes exactly the sessions it takes out and changes no
    other session (`RegistryCall.Effect`): an install the different
    session registered under the name before it, so installing a session
    again disposes nothing; a removal the session it returns; a removal
    by a predicate the registered sessions the predicate holds of, whose
    number it returns.

  The invariant that carries the history is `Host.Keyed`: the registry
  names each session once, under the session's own name.

  Main statement: `registry_keeps_latest`.
-/

namespace ReplHost

variable {T : Type}

namespace Host

/-! ### Views of a registry -/

/-- The session registered under a name. -/
def lookup (h : Host T) (which : RegistryChoice) (n : String) : Option Nat :=
  (h.registryOf which).bind (·.find? n)

/-- The sessions registered, in the registry's order. -/
def registered (h : Host T) (which : RegistryChoice) : List Nat :=
  ((h.registryOf which).map fun g => g.items.map (·.2)).getD []

/-- Session `t` exists and bears the name `n`. -/
def Named (h : Host T) (t : Nat) (n : String) : Prop := ∃ x, h.session? t = some x ∧ x.name = n

/-- A change disposes exactly the sessions `P` holds of and leaves every
    other session as it was. -/
def DisposesExactly (P : Nat → Prop) (h h' : Host T) : Prop :=
  ∀ t, (P t → h'.stateOf t = .disposed) ∧ (¬ P t → h'.session? t = h.session? t)

variable {h h' : Host T} {which : RegistryChoice} {g : Registry} {s t : Nat} {x : Session} {n m : String}

theorem Named.unique (h₁ : Named h t n) (h₂ : Named h t m) : n = m := by
  obtain ⟨x, hx, rfl⟩ := h₁
  obtain ⟨y, hy, rfl⟩ := h₂
  rw [hx] at hy
  cases hy
  rfl

theorem lookup_of (hg : h.registryOf which = some g) (n : String) : h.lookup which n = g.find? n := by
  simp [lookup, hg]

theorem registered_of (hg : h.registryOf which = some g) : h.registered which = g.items.map (·.2) := by
  simp [registered, hg]

/-! ### The primitives a call is made of -/

@[simp] theorem session?_setRegistry_any (which : RegistryChoice) (g : Registry) (t : Nat) :
    (h.setRegistry which g).session? t = h.session? t := by
  cases which <;> rfl

theorem frame_setRegistry_any (which : RegistryChoice) (g : Registry) : Frame h (h.setRegistry which g) := by
  cases which <;> exact ⟨rfl, Nat.le_refl _, rfl, .of_sessions rfl⟩

theorem registryOf_setRegistry (hg : h.registryOf which = some g) (g' : Registry) :
    (h.setRegistry which g').registryOf which = some g' := by
  cases which with
  | own => rfl
  | controller =>
    obtain ⟨c, hc, -⟩ := Option.map_eq_some_iff.mp hg
    simp [registryOf, setRegistry, hc]

@[simp] theorem registryOf_dispose (which : RegistryChoice) (t : Nat) :
    (h.dispose t).registryOf which = h.registryOf which := by
  unfold dispose
  split <;> cases which <;> rfl

theorem session?_dispose_ne (hne : s ≠ t) : (h.dispose s).session? t = h.session? t := by
  unfold dispose
  split
  · rfl
  · simp [session?_modifySession, hne]

/-- Disposing the sessions of registry pairs one after the other disposes
    exactly those sessions. -/
theorem foldl_dispose (which : RegistryChoice) (l : List (String × Nat)) (h : Host T) :
    DisposesExactly (· ∈ l.map (·.2)) h (l.foldl (fun h p => h.dispose p.2) h) ∧
      Frame h (l.foldl (fun h p => h.dispose p.2) h) ∧
      (l.foldl (fun h p => h.dispose p.2) h).registryOf which = h.registryOf which := by
  induction l generalizing h with
  | nil => exact ⟨fun t => ⟨fun ht => by simp at ht, fun _ => rfl⟩, .refl h, rfl⟩
  | cons p l ih =>
    obtain ⟨hd, hf, hr⟩ := ih (h.dispose p.2)
    refine ⟨fun t => ⟨fun ht => ?_, fun ht => ?_⟩, aside_dispose.frame.trans hf, hr.trans (registryOf_dispose _ _)⟩
    · by_cases hl : t ∈ l.map (·.2)
      · exact (hd t).1 hl
      · -- `t` is the head's session, disposed first and left alone after
        have hpt : t = p.2 := by simpa [hl] using ht
        subst hpt
        exact hf.stateOf (stateOf_dispose h p.2)
    · have hpt : p.2 ≠ t := fun he => ht (by simp [he])
      rw [List.foldl_cons, (hd t).2 (fun hl => ht (by simp [hl])), session?_dispose_ne hpt]

/-! ### The calls, one equation each -/

theorem install_eq (hg : h.registryOf which = some g) (hx : h.session? s = some x) :
    h.install which s = ((g.find? x.name).elim h fun p => if p ≠ s then h.dispose p else h).setRegistry
      which (g.set x.name s) := by
  cases hp : g.find? x.name <;> simp [install, hg, hx, hp]

theorem removeFrom_eq (hg : h.registryOf which = some g) (n : String) :
    h.removeFrom which n = (g.find? n).elim (h, none) fun t => ((h.setRegistry which (g.erase n)).dispose t, some t) := by
  cases hp : g.find? n <;> simp [removeFrom, hg, hp]

theorem removeMatching_eq (hg : h.registryOf which = some g) (hit : Nat → Bool) :
    h.removeMatching which hit =
      ((g.items.filter (hit ·.2)).foldl (fun h p => h.dispose p.2)
        (h.setRegistry which { items := g.items.filter fun p => !hit p.2 }), (g.items.filter (hit ·.2)).length) := by
  simp [removeMatching, hg]

/-! ### Calls on a registry -/

/-- A call on a registry. -/
inductive RegistryCall (T : Type) where
  /-- Installs a session under its name. -/
  | install (s : Nat)
  /-- Removes the session registered under a name. -/
  | remove (name : String)
  /-- Removes the sessions a predicate holds of; the predicate reads the
      host as the call finds it. -/
  | removeMatching (hit : Host T → Nat → Bool)
  /-- Looks a name up. -/
  | find (name : String)
  /-- Lists the sessions. -/
  | all

namespace RegistryCall

/-- The host after a call on the registry `which`; reading changes nothing. -/
def run (which : RegistryChoice) : RegistryCall T → Host T → Host T
  | install s, h => h.install which s
  | remove n, h => (h.removeFrom which n).1
  | removeMatching hit, h => (h.removeMatching which (hit h)).1
  | find _, h | all, h => h

/-- The sessions a call installs. -/
def installs : RegistryCall T → List Nat
  | install s => [s]
  | _ => []

/-- Whether a call, on the host `h` it finds, ends the registration of
    session `s` under the name `n`: it installs a session of that name,
    removes the name, or removes by a predicate that holds of `s`. -/
def Drops (h : Host T) (n : String) (s : Nat) : RegistryCall T → Prop
  | install s' => Host.Named h s' n
  | remove m => m = n
  | removeMatching hit => hit h s = true
  | find _ | all => False

/-- The sessions a call takes out of the registry `which` of the host `h`
    it finds: an install the different session registered under the
    name of the one it installs, a removal the session registered under
    the name, a removal by a predicate the registered sessions it holds
    of. -/
def Disposes (which : RegistryChoice) (h : Host T) : RegistryCall T → Nat → Prop
  | install s, t => ∃ x, h.session? s = some x ∧ h.lookup which x.name = some t ∧ t ≠ s
  | remove n, t => h.lookup which n = some t
  | removeMatching hit, t => t ∈ h.registered which ∧ hit h t = true
  | find _, _ | all, _ => False

/-- What a call answers, besides what it disposes: a removal the session
    registered under the name, a removal by a predicate how many
    sessions it took out, each registered once. -/
def Answers (which : RegistryChoice) (h : Host T) : RegistryCall T → Prop
  | remove n => (h.removeFrom which n).2 = h.lookup which n
  | removeMatching hit =>
    (h.removeMatching which (hit h)).2 = ((h.registered which).filter (hit h)).length ∧
      (h.registered which).Nodup
  | install _ | find _ | all => True

/-- What a call does on the host `h` it finds: it disposes exactly the
    sessions it takes out, and answers as `Answers` says. -/
def Effect (which : RegistryChoice) (h : Host T) (c : RegistryCall T) : Prop :=
  DisposesExactly (c.Disposes which h) h (c.run which h) ∧ c.Answers which h

end RegistryCall

/-- The host after a history of calls on the registry `which`, the latest
    call first. -/
def replay (which : RegistryChoice) (h₀ : Host T) : List (RegistryCall T) → Host T
  | [] => h₀
  | c :: past => c.run which (replay which h₀ past)

/-- After the history `calls` (latest first), `s` is the session last
    installed under `n`, and no call since took it out. -/
inductive Survives (which : RegistryChoice) (h₀ : Host T) (n : String) (s : Nat) : List (RegistryCall T) → Prop
  /-- `s`, of name `n`, was installed last. -/
  | installed {past : List (RegistryCall T)} :
      Named (replay which h₀ past) s n → Survives which h₀ n s (.install s :: past)
  /-- A call that does not end its registration keeps it. -/
  | kept {c : RegistryCall T} {past : List (RegistryCall T)} :
      Survives which h₀ n s past → ¬ c.Drops (replay which h₀ past) n s → Survives which h₀ n s (c :: past)

/-! ### The invariant: each session once, under its own name -/

/-- The registry `which` of `h` is `g`, names each session once, and each
    under the session's own name. -/
structure Keyed (which : RegistryChoice) (h : Host T) (g : Registry) : Prop where
  /-- The registry is there. -/
  found : h.registryOf which = some g
  /-- Its names are pairwise distinct. -/
  names : (g.items.map (·.1)).Nodup
  /-- A session is registered under its own name. -/
  named : ∀ n t, (n, t) ∈ g.items → Named h t n

theorem Keyed.lookup_eq_some (hk : Keyed which h g) : h.lookup which n = some t ↔ (n, t) ∈ g.items := by
  rw [lookup_of hk.found]
  exact Registry.find?_eq_some_iff hk.names

/-- A session is registered under one name at most, so the sessions
    registered are pairwise distinct. -/
theorem Keyed.registered_nodup (hk : Keyed which h g) : (h.registered which).Nodup := by
  rw [registered_of hk.found]
  refine List.Nodup.map_on ?_ (hk.names.of_map _)
  intro a ha b hb hab
  have hname : a.1 = b.1 := (hk.named a.1 a.2 ha).unique (hab ▸ hk.named b.1 b.2 hb)
  exact Prod.ext hname hab

/-! ### One call -/

theorem frame_install_any (which : RegistryChoice) (s : Nat) : Frame h (h.install which s) := by
  dsimp only [install]
  split
  · refine Frame.trans ?_ (frame_setRegistry_any _ _)
    split
    · split
      · exact aside_dispose.frame
      · exact .refl h
    · exact .refl h
  · exact .refl h

theorem frame_removeFrom (which : RegistryChoice) (n : String) : Frame h (h.removeFrom which n).1 := by
  unfold removeFrom
  split
  · split
    · exact (frame_setRegistry_any _ _).trans aside_dispose.frame
    · exact .refl h
  · exact .refl h

theorem frame_removeMatching (which : RegistryChoice) (hit : Nat → Bool) :
    Frame h (h.removeMatching which hit).1 := by
  unfold removeMatching
  split
  · exact (frame_setRegistry_any _ _).trans (foldl_dispose which _ _).2.1
  · exact .refl h

theorem frame_run (which : RegistryChoice) (c : RegistryCall T) (h : Host T) : Frame h (c.run which h) := by
  cases c with
  | install s => exact frame_install_any which s
  | remove n => exact frame_removeFrom which n
  | removeMatching hit => exact frame_removeMatching which (hit h)
  | find n => exact .refl h
  | all => exact .refl h

/-- A call keeps the registry keyed, and what it registers afterwards is
    the session it installs under the session's name, and every pair it
    does not drop. -/
theorem Keyed.run (hk : Keyed which h g) (c : RegistryCall T) (hv : ∀ s ∈ c.installs, s < h.sessions.size) :
    ∃ g', Keyed which (c.run which h) g' ∧
      ∀ n t, (n, t) ∈ g'.items ↔ (c = .install t ∧ Named h t n) ∨ ((n, t) ∈ g.items ∧ ¬ c.Drops h n t) := by
  have hf := frame_run which c h
  -- what `g'` registers decides that it is keyed
  suffices hg' : ∃ g', (c.run which h).registryOf which = some g' ∧ (g'.items.map (·.1)).Nodup ∧
      ∀ n t, (n, t) ∈ g'.items ↔ (c = .install t ∧ Named h t n) ∨ ((n, t) ∈ g.items ∧ ¬ c.Drops h n t) by
    obtain ⟨g', hfound, hnames, hmem⟩ := hg'
    refine ⟨g', ⟨hfound, hnames, fun n t ht => ?_⟩, hmem⟩
    rcases (hmem n t).mp ht with ⟨-, hn⟩ | ⟨hg, -⟩
    · exact hf.named hn
    · exact hf.named (hk.named n t hg)
  cases c with
  | install s =>
    obtain ⟨x, hx⟩ : ∃ x, h.session? s = some x :=
      Option.isSome_iff_exists.mp (by simpa [session?] using hv s (by simp [RegistryCall.installs]))
    have hxn : Named h s x.name := ⟨x, hx, rfl⟩
    refine ⟨g.set x.name s, ?_, Registry.nodup_set hk.names s, fun n t => ?_⟩
    · rw [RegistryCall.run, install_eq hk.found hx]
      apply registryOf_setRegistry
      cases g.find? x.name with
      | none => exact hk.found
      | some p =>
        simp only [Option.elim]
        split
        · rw [registryOf_dispose]; exact hk.found
        · exact hk.found
    · -- a session bears one name, so `s` is named `n` exactly when `n` is its name
      rw [Registry.mem_set]
      simp only [RegistryCall.Drops, RegistryCall.install.injEq]
      constructor
      · rintro (⟨hg, hne⟩ | ⟨rfl, rfl⟩)
        · exact .inr ⟨hg, fun hn => hne (hn.unique hxn)⟩
        · exact .inl ⟨rfl, hxn⟩
      · rintro (⟨rfl, hn⟩ | ⟨hg, hne⟩)
        · exact .inr ⟨hn.unique hxn, rfl⟩
        · exact .inl ⟨hg, fun he => hne (he ▸ hxn)⟩
  | remove m =>
    rw [RegistryCall.run, removeFrom_eq hk.found]
    cases hp : g.find? m with
    | none =>
      -- nothing is registered under `m`, so no pair bears it
      refine ⟨g, hk.found, hk.names, fun n t => ?_⟩
      simp only [RegistryCall.Drops, reduceCtorEq, false_and, false_or]
      constructor
      · intro hg
        refine ⟨hg, fun hmn => ?_⟩
        subst hmn
        rw [(Registry.find?_eq_some_iff hk.names).mpr hg] at hp
        cases hp
      · exact fun h => h.1
    | some t₀ =>
      refine ⟨g.erase m, ?_, Registry.nodup_filter hk.names _, fun n t => ?_⟩
      · simp only [Option.elim, registryOf_dispose]
        exact registryOf_setRegistry hk.found _
      · rw [Registry.mem_erase]
        simp [RegistryCall.Drops, eq_comm]
  | removeMatching hit =>
    refine ⟨{ items := g.items.filter fun p => !hit h p.2 }, ?_, Registry.nodup_filter hk.names _,
      fun n t => ?_⟩
    · rw [RegistryCall.run, removeMatching_eq hk.found]
      exact (foldl_dispose _ _ _).2.2.trans (registryOf_setRegistry hk.found _)
    · simp [RegistryCall.Drops]
  | find n => exact ⟨g, hk.found, hk.names, fun n t => by simp [RegistryCall.Drops]⟩
  | all => exact ⟨g, hk.found, hk.names, fun n t => by simp [RegistryCall.Drops]⟩

/-- Each call disposes exactly the sessions it takes out, and answers as
    `Answers` says. -/
theorem Keyed.effect (hk : Keyed which h g) (c : RegistryCall T) : c.Effect which h := by
  cases c with
  | install s =>
    refine ⟨fun t => ?_, trivial⟩
    cases hx : h.session? s with
    | none =>
      -- a session that does not exist installs nothing
      have hid : h.install which s = h := by simp [install, hx]
      simp [RegistryCall.Disposes, RegistryCall.run, hid, hx]
    | some x =>
      simp only [RegistryCall.Disposes, RegistryCall.run, hx, Option.some.injEq, exists_eq_left',
        lookup_of hk.found, install_eq hk.found hx, stateOf_setRegistry, session?_setRegistry_any]
      cases hp : g.find? x.name with
      | none => simp
      | some p =>
        by_cases hps : p = s
        · -- the session registered there is `s` itself: nothing is disposed
          subst hps
          exact ⟨fun hd => absurd (Option.some.inj hd.1).symm hd.2, fun _ => by simp⟩
        · by_cases hpt : p = t
          · subst hpt
            simp [hps]
          · simp [hps, hpt, session?_dispose_ne hpt]
  | remove n =>
    refine ⟨fun t => ?_, ?_⟩
    · simp only [RegistryCall.Disposes, RegistryCall.run, lookup_of hk.found, removeFrom_eq hk.found]
      cases hp : g.find? n with
      | none => simp
      | some p =>
        by_cases hpt : p = t
        · subst hpt
          simp
        · simp [hpt, session?_dispose_ne hpt]
    · simp only [RegistryCall.Answers, lookup_of hk.found, removeFrom_eq hk.found]
      cases g.find? n <;> rfl
  | removeMatching hit =>
    have hrun : (RegistryCall.removeMatching hit).run which h = (h.removeMatching which (hit h)).1 := rfl
    obtain ⟨hd, -, -⟩ := foldl_dispose which (g.items.filter (hit h ·.2))
      (h.setRegistry which { items := g.items.filter fun p => !hit h p.2 })
    refine ⟨fun t => ?_, ?_, hk.registered_nodup⟩
    · -- the sessions disposed are the registered ones the predicate holds of
      have hmem : t ∈ (g.items.filter (hit h ·.2)).map (·.2) ↔
          (RegistryCall.removeMatching hit).Disposes which h t := by
        simp [RegistryCall.Disposes, registered_of hk.found]
      rw [hrun, removeMatching_eq hk.found, ← hmem]
      exact ⟨(hd t).1, fun ht => ((hd t).2 ht).trans (session?_setRegistry_any _ _ _)⟩
    · rw [removeMatching_eq hk.found, registered_of hk.found, List.filter_map, List.length_map]
      rfl
  | find n => exact ⟨fun t => ⟨fun hd => (hd : False).elim, fun _ => rfl⟩, trivial⟩
  | all => exact ⟨fun t => ⟨fun hd => (hd : False).elim, fun _ => rfl⟩, trivial⟩

/-- A call that ends the registration of a session registered under a name,
    and does not install that session again, disposes it. -/
theorem Keyed.disposes_of_drops (hk : Keyed which h g) (hm : (n, t) ∈ g.items) {c : RegistryCall T}
    (hd : c.Drops h n t) (hne : c ≠ .install t) : c.Disposes which h t := by
  have hl : h.lookup which n = some t := hk.lookup_eq_some.mpr hm
  cases c with
  | install s =>
    obtain ⟨x, hx, rfl⟩ := hd
    exact ⟨x, hx, hl, fun hts => hne (hts ▸ rfl)⟩
  | remove m =>
    cases hd
    exact hl
  | removeMatching hit => exact ⟨by rw [registered_of hk.found]; exact List.mem_map_of_mem hm, hd⟩
  | find m => cases hd
  | all => cases hd

/-! ### Every history -/

/-- The sessions a history installs. -/
def installsOf (calls : List (RegistryCall T)) : List Nat := calls.flatMap RegistryCall.installs

theorem frame_replay (which : RegistryChoice) (h₀ : Host T) : ∀ calls, Frame h₀ (replay which h₀ calls)
  | [] => .refl h₀
  | c :: past => (frame_replay which h₀ past).trans (frame_run which c _)

theorem survives_cons_iff {h₀ : Host T} {c : RegistryCall T} {past : List (RegistryCall T)} :
    Survives which h₀ n s (c :: past) ↔ (c = .install s ∧ Named (replay which h₀ past) s n) ∨
      (Survives which h₀ n s past ∧ ¬ c.Drops (replay which h₀ past) n s) := by
  constructor
  · intro hs
    cases hs with
    | installed hn => exact .inl ⟨rfl, hn⟩
    | kept hp hd => exact .inr ⟨hp, hd⟩
  · rintro (⟨rfl, hn⟩ | ⟨hp, hd⟩)
    · exact .installed hn
    · exact .kept hp hd

/-- What holds of the sessions a history installs holds of those its
    earlier calls install. -/
theorem installs_tail {P : Nat → Prop} {c : RegistryCall T} {past : List (RegistryCall T)}
    (hv : ∀ s ∈ installsOf (c :: past), P s) : ∀ s ∈ installsOf past, P s :=
  fun s hs => hv s (List.mem_append_right _ hs)

section Histories

variable {h₀ : Host T} (hreg : h₀.registryOf which = some {})
include hreg

/-- Every history keeps a registry that starts empty keyed, as long as it
    installs sessions of the host. -/
theorem keyed_replay :
    ∀ calls, (∀ s ∈ installsOf calls, s < h₀.sessions.size) → ∃ g, Keyed which (replay which h₀ calls) g
  | [], _ => ⟨{}, hreg, by simp, fun n t ht => by simp at ht⟩
  | c :: past, hv => by
    obtain ⟨g, hk⟩ := keyed_replay past (installs_tail hv)
    obtain ⟨g', hk', -⟩ := hk.run c fun s hs => by
      rw [(frame_replay which h₀ past).count]
      exact hv s (List.mem_append_left _ hs)
    exact ⟨g', hk'⟩

/-- The latest call of a history takes the registry from one keyed state to
    another, changing its items as `Keyed.run` says. -/
theorem keyed_replay_cons (c : RegistryCall T) (past : List (RegistryCall T))
    (hv : ∀ s ∈ installsOf (c :: past), s < h₀.sessions.size) :
    ∃ g g', Keyed which (replay which h₀ past) g ∧ Keyed which (replay which h₀ (c :: past)) g' ∧
      ∀ n t, (n, t) ∈ g'.items ↔ (c = .install t ∧ Named (replay which h₀ past) t n) ∨
        ((n, t) ∈ g.items ∧ ¬ c.Drops (replay which h₀ past) n t) := by
  obtain ⟨g, hk⟩ := keyed_replay hreg past (installs_tail hv)
  obtain ⟨g', hk', hmem⟩ := hk.run c fun s hs => by
    rw [(frame_replay which h₀ past).count]
    exact hv s (List.mem_append_left _ hs)
  exact ⟨g, g', hk, hk', hmem⟩

/-- Looking a name up after a history gives the session last installed
    under it, unless a later call took it out. -/
theorem lookup_replay :
    ∀ calls, (∀ s ∈ installsOf calls, s < h₀.sessions.size) →
      ∀ n s, (replay which h₀ calls).lookup which n = some s ↔ Survives which h₀ n s calls
  | [], _, n, s => by
    rw [show replay which h₀ [] = h₀ from rfl, lookup_of hreg]
    refine ⟨fun hl => by simp [Registry.find?] at hl, fun hs => ?_⟩
    cases hs
  | c :: past, hv, n, s => by
    obtain ⟨g, g', hk, hk', hmem⟩ := keyed_replay_cons hreg c past hv
    rw [survives_cons_iff, ← lookup_replay past (installs_tail hv) n s, hk'.lookup_eq_some, hmem,
      hk.lookup_eq_some]

/-- After a history, every session it installed is registered, or
    disposed. -/
theorem settled_replay :
    ∀ calls, (∀ s ∈ installsOf calls, s < h₀.sessions.size) →
      ∀ s ∈ installsOf calls, (∃ n, (replay which h₀ calls).lookup which n = some s) ∨
        (replay which h₀ calls).stateOf s = .disposed
  | [], _, s, hs => by simp [installsOf] at hs
  | c :: past, hv, s, hs => by
    obtain ⟨g, g', hk, hk', hmem⟩ := keyed_replay_cons hreg c past hv
    simp only [hk'.lookup_eq_some, hmem]
    rcases List.mem_append.mp hs with hc | hp
    · -- the call installs `s`, under the name it bears
      cases c <;> simp only [RegistryCall.installs, List.mem_singleton, List.not_mem_nil] at hc
      subst hc
      obtain ⟨x, hx⟩ : ∃ x, (replay which h₀ past).session? s = some x :=
        Option.isSome_iff_exists.mp (by
          simpa [session?, (frame_replay which h₀ past).count] using hv s (List.mem_append_left _ (by simp [RegistryCall.installs])))
      exact .inl ⟨x.name, .inl ⟨rfl, x, hx, rfl⟩⟩
    · rcases settled_replay past (installs_tail hv) s hp with ⟨m, hm⟩ | hd
      · rw [hk.lookup_eq_some] at hm
        by_cases hdrop : c.Drops (replay which h₀ past) m s
        · by_cases hcs : c = .install s
          · exact .inl ⟨m, .inl ⟨hcs, hk.named m s hm⟩⟩
          · exact .inr (((hk.effect c).1 s).1 (hk.disposes_of_drops hm hdrop hcs))
        · exact .inl ⟨m, .inr ⟨hm, hdrop⟩⟩
      · exact .inr ((frame_run which c _).stateOf hd)

end Histories

/-- A registry that starts empty, under every history of installs,
    removals, removals by a predicate, lookups and listings that installs
    sessions of the host: looking a name up gives the session last
    installed under it, unless a later call took it out; every session
    installed under a name, other than the one registered there now, is
    disposed; and each call disposes exactly the sessions it takes out,
    changes no other session, and answers as `RegistryCall.Answers` says. -/
theorem registry_keeps_latest (which : RegistryChoice) {h₀ : Host T} (hreg : h₀.registryOf which = some {})
    (calls : List (RegistryCall T)) (hv : ∀ s ∈ installsOf calls, s < h₀.sessions.size) :
    (∀ n s, (replay which h₀ calls).lookup which n = some s ↔ Survives which h₀ n s calls) ∧
    (∀ n s, s ∈ installsOf calls → Named h₀ s n → (replay which h₀ calls).lookup which n ≠ some s →
      (replay which h₀ calls).stateOf s = .disposed) ∧
    (∀ c past, c :: past <:+ calls → c.Effect which (replay which h₀ past)) := by
  refine ⟨lookup_replay hreg calls hv, fun n s hs hn hne => ?_, fun c past hsuf => ?_⟩
  · rcases settled_replay hreg calls hv s hs with ⟨m, hm⟩ | hd
    · obtain ⟨g, hk⟩ := keyed_replay hreg calls hv
      -- the name `s` is registered under is its own
      have hmn : m = n :=
        (hk.named m s (hk.lookup_eq_some.mp hm)).unique ((frame_replay which h₀ calls).named hn)
      exact absurd (hmn ▸ hm) hne
    · exact hd
  · -- the history up to each call installs sessions of the host too
    have hvp : ∀ s ∈ installsOf past, s < h₀.sessions.size := by
      intro s hs
      obtain ⟨c', hc', hs'⟩ := List.mem_flatMap.mp hs
      exact hv s (List.mem_flatMap.mpr ⟨c', hsuf.subset (List.mem_cons_of_mem c hc'), hs'⟩)
    obtain ⟨g, hk⟩ := keyed_replay hreg past hvp
    exact hk.effect c

/-- A host with two sessions, both named `console`, registered nowhere. -/
def twoConsoles : Host Empty :=
  { sessions := #[Session.create "console" (LaunchSpec.ofProgram "evcxr") {},
                  Session.create "console" (LaunchSpec.ofProgram "evcxr") {}] }

/-- The first `console` installed, then the second. -/
def consoleHistory : List (RegistryCall Empty) := [.install 1, .install 0]

/-- Installing the second `console` after the first, in the host's own
    registry, keeps the second and disposes the first. -/
theorem second_console_replaces_first :
    twoConsoles.registryOf .own = some {} ∧
    (∀ s ∈ installsOf consoleHistory, s < twoConsoles.sessions.size) ∧
    (∀ n s, (replay .own twoConsoles consoleHistory).lookup .own n = some s ↔
      Survives .own twoConsoles n s consoleHistory) ∧
    (∀ n s, s ∈ installsOf consoleHistory → Named twoConsoles s n →
      (replay .own twoConsoles consoleHistory).lookup .own n ≠ some s →
      (replay .own twoConsoles consoleHistory).stateOf s = .disposed) ∧
    (∀ c past, c :: past <:+ consoleHistory → c.Effect .own (replay .own twoConsoles past)) := by
  have hreg : twoConsoles.registryOf .own = some {} := rfl
  have hv : ∀ s ∈ installsOf consoleHistory, s < twoConsoles.sessions.size := by
    simp [installsOf, consoleHistory, RegistryCall.installs, twoConsoles]
  exact ⟨hreg, hv, registry_keeps_latest .own hreg _ hv⟩

end Host

end ReplHost
