import ReplHost.Proofs.Host.Desk
import Mathlib.Data.List.Nodup

/-! # The console desk stays in order

  One activation controller works on the container the host reports, and
  nobody else adds entries or changes its registry. Whatever sequence of
  calls it takes (binding and showing sessions, launching consoles,
  showing or hiding the container, closing entries, starting, stopping and
  disposing sessions, processes exiting), with every respawn and hook they
  set off, the desk stays in order (`Host.Orderly`):

  1. the entries have pairwise distinct names;
  2. the registry's names are exactly the entries' names;
  3. each entry shows the very session the registry holds under its name,
     and carries the controller's hook;
  4. every session the controller was given or made is registered, or
     disposed;
  5. the selection names an entry, and there is one while the container
     has entries;
  6. the controller has subscribed to the container once it is bound, and
     not otherwise.

  The invariant also records that registered sessions carry the name they
  are registered under and that entries render into distinct surfaces.
  Respawning nests: a notification may launch a console, whose binding
  notifies again. Binding adds an entry before it notifies, so that inner
  notification never respawns; every call is shown to keep the invariant
  given that respawning keeps it, and respawning keeps it because launching
  does.
-/

namespace ReplHost

variable {T : Type}

namespace Host

variable {known : List Nat} {h h' : Host T} {c : Controller} {s t : Nat} {x : Session} {n : String}

/-- The console desk is in order, for the sessions `known` that the
    controller was given or made. -/
structure Orderly (known : List Nat) (h : Host T) : Prop where
  /-- The controller is there. -/
  controller : h.controller.isSome
  /-- The host reports the container. -/
  bridged : h.bridged = true
  /-- Entry names are pairwise distinct. -/
  names : (h.container.entries.map (·.name)).Nodup
  /-- The registry's names are the entries' names. -/
  keys : ∀ n, (h.controllerRegistry.find? n).isSome ↔ n ∈ h.container.entries.map (·.name)
  /-- Each entry shows the session registered under its name and has the
      controller's hook. -/
  slots : ∀ e ∈ h.container.entries, e.session = h.controllerRegistry.find? e.name ∧ e.hooked = true
  /-- Each session the controller was given or made exists, and is
      registered or disposed. -/
  released : ∀ t ∈ known, t < h.sessions.size ∧
    ((∃ n, h.controllerRegistry.find? n = some t) ∨ h.stateOf t = .disposed)
  /-- The selection names an entry. -/
  selected : ∀ n, h.container.selected = some n → n ∈ h.container.entries.map (·.name)
  /-- Something is selected while the container has entries. -/
  selects : h.container.entries ≠ [] → h.container.selected.isSome
  /-- The controller has subscribed once when bound, and not otherwise. -/
  subscribed : ∀ c, h.controller = some c → h.container.subscriptions = if c.bound then 1 else 0
  /-- A registered session carries the name it is registered under. -/
  labelled : ∀ n t, h.controllerRegistry.find? n = some t → ∃ x, h.session? t = some x ∧ x.name = n
  /-- Entries render into distinct surfaces. -/
  surfaces : (h.container.entries.map (·.surface)).Nodup
  /-- Entries render into surfaces the host made. -/
  drawn : ∀ e ∈ h.container.entries, e.surface < h.sinks.size

theorem Frame.name (hf : Frame h h') (hx : h.session? t = some x) :
    ∃ x', h'.session? t = some x' ∧ x'.name = x.name := by
  obtain ⟨x', hx', hn, -⟩ := hf.sessions t x hx
  exact ⟨x', hx', hn⟩

theorem Frame.released (hf : Frame h h') {P : Prop}
    (hr : t < h.sessions.size ∧ (P ∨ h.stateOf t = .disposed)) :
    t < h'.sessions.size ∧ (P ∨ h'.stateOf t = .disposed) :=
  ⟨hf.count ▸ hr.1, hr.2.imp id hf.stateOf⟩

/-- A registered session keeps the name it is registered under while the
    host only moves on. -/
theorem Orderly.labelled_after {H : Host T} (ho : Orderly known h) (hf : Frame h H)
    (ht : h.controllerRegistry.find? n = some t) : ∃ x, H.session? t = some x ∧ x.name = n := by
  obtain ⟨x, hx, hn⟩ := ho.labelled n t ht
  obtain ⟨x', hx', hn'⟩ := hf.name hx
  exact ⟨x', hx', hn'.trans hn⟩

/-- A change that moves the rest of the host on and keeps the registry,
    the entries and the selection keeps the desk in order, once the
    subscriptions still match the controller. -/
theorem Orderly.of_desk (ho : Orderly known h) (hf : Frame h h')
    (hreg : h'.controllerRegistry = h.controllerRegistry) (hc : h'.controller.isSome)
    (hentries : h'.container.entries = h.container.entries)
    (hsel : h'.container.selected = h.container.selected)
    (hsub : ∀ c, h'.controller = some c → h'.container.subscriptions = if c.bound then 1 else 0) :
    Orderly known h' := by
  refine ⟨hc, hf.bridged.trans ho.bridged, ?_, ?_, ?_, ?_, ?_, ?_, hsub, ?_, ?_, ?_⟩
  · rw [hentries]; exact ho.names
  · rw [hentries, hreg]; exact ho.keys
  · rw [hentries, hreg]; exact ho.slots
  · rw [hreg]; exact fun t ht => hf.released (ho.released t ht)
  · rw [hentries, hsel]; exact ho.selected
  · rw [hentries, hsel]; exact ho.selects
  · rw [hreg]
    exact fun n t ht => ho.labelled_after hf ht
  · rw [hentries]; exact ho.surfaces
  · rw [hentries]; exact fun e he => Nat.lt_of_lt_of_le (ho.drawn e he) hf.sinks

/-- A call that leaves the desk alone keeps it in order. -/
theorem Orderly.aside (ho : Orderly known h) (ha : Aside h h') : Orderly known h' :=
  ho.of_desk ha.frame (by simp [controllerRegistry, ha.controller]) (ha.controller ▸ ho.controller)
    (by rw [ha.container]) (by rw [ha.container])
    (fun c hc => by rw [ha.container]; exact ho.subscribed c (ha.controller ▸ hc))

/-- Showing or hiding the container keeps the desk in order. -/
theorem Orderly.visible (ho : Orderly known h) (on : Bool) :
    Orderly known { h with container := { h.container with visible := on } } :=
  ho.of_desk ⟨rfl, Nat.le_refl _, rfl, .of_sessions rfl⟩ rfl ho.controller rfl rfl ho.subscribed

/-- A disposed session can join the known ones. -/
theorem Orderly.disposed (ho : Orderly known h) (ht : t < h.sessions.size)
    (hd : h.stateOf t = .disposed) : Orderly (known ++ [t]) h := by
  refine { ho with released := ?_ }
  intro t' ht'
  rcases List.mem_append.mp ht' with ht' | ht'
  · exact ho.released t' ht'
  · obtain rfl := List.mem_singleton.mp ht'
    exact ⟨ht, .inr hd⟩

/-- A session the host creates beside the desk leaves it in order. -/
theorem Orderly.addSession (ho : Orderly known h) (y : Session) : Orderly known (h.addSession y).1 := by
  have hsize : (h.addSession y).1.sessions.size = h.sessions.size + 1 := by simp [Host.addSession]
  -- the sessions there were stay as they are
  have hold : ∀ t, t < h.sessions.size → (h.addSession y).1.session? t = h.session? t := by
    intro t ht
    simp [Host.addSession, session?, Array.getElem?_push, Nat.ne_of_lt ht]
  have hreg : (h.addSession y).1.controllerRegistry = h.controllerRegistry := rfl
  refine { ho with released := ?_, labelled := ?_ }
  · intro t ht
    obtain ⟨hlt, hr⟩ := ho.released t ht
    refine ⟨by omega, ?_⟩
    rw [hreg]
    simpa only [stateOf, hold t hlt] using hr
  · intro n t ht
    obtain ⟨x, hx, hn⟩ := ho.labelled n t ht
    have hlt : t < h.sessions.size := by simpa [session?] using Option.isSome_of_eq_some hx
    exact ⟨x, (hold t hlt).trans hx, hn⟩

/-! ### Binding -/

@[simp] theorem controllerRegistry_withContainer (h : Host T) (k : Container) :
    { h with container := k }.controllerRegistry = h.controllerRegistry := rfl

@[simp] theorem stateOf_withContainer (h : Host T) (k : Container) (t : Nat) :
    { h with container := k }.stateOf t = h.stateOf t := rfl

/-- The desk is in order after session `s` was put under its name `x.name`
    into entries that keep the other names, with that name selected: the
    session registered there before is disposed, and every other name keeps
    its session. -/
theorem Orderly.put (ho : Orderly known h) (hc : h.controller = some c) (hx : h.session? s = some x)
    (hs : s < h.sessions.size) {H : Host T} (hfr : Frame h H)
    (hprev : ∀ p, c.registry.find? x.name = some p → p ≠ s → H.stateOf p = .disposed)
    (hctrl : H.controller = some { c with registry := c.registry.set x.name s })
    (hsubs : H.container.subscriptions = h.container.subscriptions)
    (hnames : (H.container.entries.map (·.name)).Nodup)
    (hmem : ∀ m, m ∈ H.container.entries.map (·.name) ↔ m = x.name ∨ m ∈ h.container.entries.map (·.name))
    (hslots : ∀ e ∈ H.container.entries,
      e.session = (c.registry.set x.name s).find? e.name ∧ e.hooked = true)
    (hsurfaces : (H.container.entries.map (·.surface)).Nodup)
    (hdrawn : ∀ e ∈ H.container.entries, e.surface < H.sinks.size) :
    Orderly (known ++ [s]) { H with container := { H.container with selected := some x.name } } := by
  have hreg : H.controllerRegistry = c.registry.set x.name s := controllerRegistry_of hctrl
  have hreg₀ : h.controllerRegistry = c.registry := controllerRegistry_of hc
  refine ⟨by simp [hctrl], hfr.bridged.trans ho.bridged, hnames, ?_, ?_, ?_, ?_, ?_, ?_, ?_,
    hsurfaces, hdrawn⟩
  · -- the registry's names: the new one, and the others as before
    intro m
    rw [controllerRegistry_withContainer, hreg, hmem]
    by_cases hm : m = x.name
    · simp [hm]
    · rw [Registry.find?_set_ne _ _ hm, ← hreg₀, ho.keys m]
      simp [hm]
  · simpa [hreg] using hslots
  · intro t ht
    rw [controllerRegistry_withContainer, stateOf_withContainer, hreg]
    rcases List.mem_append.mp ht with ht | ht
    · obtain ⟨hsize, hr⟩ := hfr.released (ho.released t ht)
      refine ⟨hsize, ?_⟩
      rcases hr with ⟨m, hm⟩ | hd
      · rw [hreg₀] at hm
        by_cases hmn : m = x.name
        · -- the session registered there before is `s` itself, or disposed
          subst hmn
          by_cases hts : t = s
          · exact .inl ⟨x.name, by simp [hts]⟩
          · exact .inr (hprev t hm hts)
        · exact .inl ⟨m, by rw [Registry.find?_set_ne _ _ hmn]; exact hm⟩
      · exact .inr hd
    · obtain rfl : t = s := List.mem_singleton.mp ht
      exact ⟨hfr.count ▸ hs, .inl ⟨x.name, by simp⟩⟩
  · intro m hm
    obtain rfl : x.name = m := Option.some.inj hm
    exact (hmem _).mpr (.inl rfl)
  · intro _
    simp
  · intro c' hc'
    rw [hctrl] at hc'
    obtain rfl := Option.some.inj hc'
    exact hsubs.trans (ho.subscribed c hc)
  · intro m t ht
    rw [controllerRegistry_withContainer, hreg] at ht
    by_cases hmn : m = x.name
    · subst hmn
      obtain rfl : s = t := by simpa using ht
      obtain ⟨x', hx', hn⟩ := hfr.name hx
      exact ⟨x', hx', hn⟩
    · rw [Registry.find?_set_ne _ _ hmn, ← hreg₀] at ht
      exact ho.labelled_after (H := H) hfr ht

/-- Putting a session into the existing entry of its name keeps the desk
    in order: only that entry changes, and it keeps its name and surface. -/
theorem Orderly.installContent_found {e : Entry} (ho : Orderly known h) (hc : h.controller = some c)
    (hx : h.session? s = some x) (hs : s < h.sessions.size) (he : h.container.find? x.name = some e)
    (r : Host T → Host T) :
    Orderly (known ++ [s]) (installContent r h s).1 ∧
      (installContent r h s).1.sessions.size = h.sessions.size := by
  obtain ⟨H, hfr, hprev, hctrl, hcont, heq⟩ := Host.installContent_found r hc hx he
  have hreg₀ : h.controllerRegistry = c.registry := controllerRegistry_of hc
  have he_mem : e ∈ h.container.entries := List.mem_of_find?_eq_some he
  have he_name : e.name = x.name := by simpa using List.find?_some he
  -- the refreshed entry keeps its name and surface
  have hnames : (H.container.entries.map (·.name)) = h.container.entries.map (·.name) := by
    rw [hcont, List.map_map]
    congr 1
    funext e'
    by_cases hk : e'.surface = e.surface <;> simp [hk]
  have hsurfaces : (H.container.entries.map (·.surface)) = h.container.entries.map (·.surface) := by
    rw [hcont, List.map_map]
    congr 1
    funext e'
    by_cases hk : e'.surface = e.surface <;> simp [hk]
  rw [heq]
  refine ⟨ho.put hc hx hs hfr hprev hctrl (by rw [hcont]) (hnames ▸ ho.names) ?_ ?_
    (hsurfaces ▸ ho.surfaces) ?_, hfr.count⟩
  · intro m
    rw [hnames]
    constructor
    · exact .inr
    · rintro (rfl | hm)
      · exact List.mem_map.mpr ⟨e, he_mem, he_name⟩
      · exact hm
  · intro e' he'
    rw [hcont] at he'
    obtain ⟨e'', he'', rfl⟩ := List.mem_map.mp he'
    obtain ⟨hsess, hhook⟩ := ho.slots e'' he''
    by_cases hk : e''.surface = e.surface
    · obtain rfl : e'' = e := List.inj_on_of_nodup_map ho.surfaces he'' he_mem hk
      simp [he_name]
    · -- any other entry has another name, whose session stays
      have hn : e''.name ≠ x.name := fun hn =>
        hk (congrArg Entry.surface (List.inj_on_of_nodup_map ho.names he'' he_mem (hn.trans he_name.symm)))
      simp only [hk, if_false]
      rw [Registry.find?_set_ne _ _ hn, ← hreg₀]
      exact ⟨hsess, hhook⟩
  · intro e' he'
    have hmem : e'.surface ∈ h.container.entries.map (·.surface) :=
      hsurfaces ▸ List.mem_map_of_mem he'
    obtain ⟨e'', he'', hk⟩ := List.mem_map.mp hmem
    exact hk ▸ Nat.lt_of_lt_of_le (ho.drawn e'' he'') hfr.sinks

/-- Putting a session into a new entry of its name keeps the desk in order:
    the entry comes last, with a new name and a new surface. -/
theorem Orderly.installContent_new (ho : Orderly known h) (hc : h.controller = some c)
    (hx : h.session? s = some x) (hs : s < h.sessions.size) (he : h.container.find? x.name = none)
    (r : Host T → Host T) :
    Orderly (known ++ [s]) (installContent r h s).1 ∧
      (installContent r h s).1.sessions.size = h.sessions.size := by
  obtain ⟨H, k, hfr, hprev, hctrl, hk, hkH, hcont, heq⟩ := Host.installContent_new r hc hx he
  have hreg₀ : h.controllerRegistry = c.registry := controllerRegistry_of hc
  have hfresh : ∀ e ∈ h.container.entries, e.name ≠ x.name := fun e he' hn => by
    simpa [hn] using List.find?_eq_none.mp he e he'
  -- the entries there were keep their surfaces, all below the new one
  have hentries : H.container.entries = h.container.entries ++
      [{ name := x.name, surface := k, session := some s, hooked := true }] := by
    have hold : (h.container.entries.map fun (e' : Entry) =>
        if e'.surface = k then { e' with hooked := true } else e') = h.container.entries := by
      conv_rhs => rw [← List.map_id h.container.entries]
      apply List.map_congr_left
      intro e he'
      have hne : e.surface ≠ k := Nat.ne_of_lt (Nat.lt_of_lt_of_le (ho.drawn e he') hk)
      simp [hne]
    rw [hcont]
    simp [List.map_append, hold]
  have hnotin : x.name ∉ h.container.entries.map (·.name) := by
    simpa using hfresh
  rw [heq]
  refine ⟨ho.put hc hx hs hfr hprev hctrl (by rw [hcont]) ?_ ?_ ?_ ?_ ?_, hfr.count⟩
  · rw [hentries, List.map_append]
    exact List.nodup_append.mpr ⟨ho.names, by simp, by simpa using hfresh⟩
  · intro m
    rw [hentries]
    simp [or_comm]
  · intro e' he'
    rw [hentries] at he'
    rcases List.mem_append.mp he' with he' | he'
    · obtain ⟨hsess, hhook⟩ := ho.slots e' he'
      rw [Registry.find?_set_ne _ _ (hfresh e' he'), ← hreg₀]
      exact ⟨hsess, hhook⟩
    · obtain rfl := List.mem_singleton.mp he'
      simp
  · rw [hentries, List.map_append]
    refine List.nodup_append.mpr ⟨ho.surfaces, by simp, ?_⟩
    intro a ha b hb
    obtain ⟨e, he', rfl⟩ := List.mem_map.mp ha
    obtain rfl : b = k := by simpa using hb
    exact Nat.ne_of_lt (Nat.lt_of_lt_of_le (ho.drawn e he') hk)
  · intro e' he'
    rw [hentries] at he'
    rcases List.mem_append.mp he' with he' | he'
    · exact Nat.lt_of_lt_of_le (ho.drawn e' he') hfr.sinks
    · obtain rfl := List.mem_singleton.mp he'
      exact hkH

/-- Putting a session into the entry of its name keeps the desk in order. -/
theorem Orderly.installContent (ho : Orderly known h) (hs : s < h.sessions.size) (r : Host T → Host T) :
    Orderly (known ++ [s]) (installContent r h s).1 ∧
      (installContent r h s).1.sessions.size = h.sessions.size := by
  obtain ⟨c, hc⟩ := Option.isSome_iff_exists.mp ho.controller
  obtain ⟨x, hx⟩ : ∃ x, h.session? s = some x := ⟨h.sessions[s], by simp [session?, hs]⟩
  cases he : h.container.find? x.name with
  | some e => exact ho.installContent_found hc hx hs he r
  | none => exact ho.installContent_new hc hx hs he r

/-- The first bind subscribes the controller to the container. -/
theorem Orderly.subscribe (ho : Orderly known h) (hc : h.controller = some c) (hb : c.bound = false)
    (a : Bool) :
    Orderly known { h with
      container := { h.container with autoHide := a, subscriptions := h.container.subscriptions + 1 }
      controller := some { c with bound := true } } := by
  refine ho.of_desk ⟨rfl, Nat.le_refl _, rfl, .of_sessions rfl⟩ ?_ rfl rfl rfl ?_
  · simp [controllerRegistry, hc]
  · intro c' hc'
    obtain rfl := Option.some.inj hc'
    simp [ho.subscribed c hc, hb]

/-- Binding a session keeps the desk in order, with the session among those
    the controller was given; it makes no session. -/
theorem Orderly.bind (ho : Orderly known h) (hs : s < h.sessions.size) (r : Host T → Host T) :
    Orderly (known ++ [s]) (bind r h s).1 ∧ (bind r h s).1.sessions.size = h.sessions.size := by
  obtain ⟨hoi, hsize⟩ := ho.installContent hs r
  obtain ⟨c, hc⟩ := Option.isSome_iff_exists.mp hoi.controller
  rw [bind_eq r rfl hc]
  cases hb : c.bound
  · exact ⟨hoi.subscribe hc hb _, hsize⟩
  · exact ⟨hoi, hsize⟩

/-! ### Closing an entry -/

/-- Taking one entry out of entries with distinct names takes exactly its
    name out of their names. -/
theorem mem_names_remove {l₁ l₂ : List Entry} {e : Entry}
    (hn : ((l₁ ++ e :: l₂).map (·.name)).Nodup) (m : String) :
    m ∈ (l₁ ++ l₂).map (·.name) ↔ m ∈ (l₁ ++ e :: l₂).map (·.name) ∧ m ≠ e.name := by
  have hout : e.name ∉ (l₁ ++ l₂).map (·.name) := by
    rw [List.map_append, List.map_cons] at hn
    simpa using (List.nodup_cons.mp (List.nodup_middle.mp hn)).1
  constructor
  · intro hm
    refine ⟨?_, fun hme => hout (hme ▸ hm)⟩
    simp only [List.map_append, List.map_cons, List.mem_append, List.mem_cons] at hm ⊢
    exact hm.imp_right .inr
  · rintro ⟨hm, hne⟩
    simp only [List.map_append, List.map_cons, List.mem_append, List.mem_cons] at hm ⊢
    rcases hm with hm | hm | hm
    · exact .inl hm
    · exact absurd hm hne
    · exact .inr hm

/-- Closing the entry of a name keeps the desk in order: the entry goes, its
    hook disposes the session registered under the name and unregisters it,
    and the selection moves to the last entry left if it was on the closed
    one. The container notifies afterwards. -/
theorem Orderly.close {e : Entry} {k : Container} (ho : Orderly known h)
    (hr : h.container.remove? n = some (e, k)) :
    ∃ H, Frame h H ∧ Orderly known H ∧
      ∀ r, removeEntry r h n = (notifyWith r H, some { e with hooked := false, session := none }) := by
  obtain ⟨c, hc⟩ := Option.isSome_iff_exists.mp ho.controller
  have hreg₀ : h.controllerRegistry = c.registry := controllerRegistry_of hc
  obtain ⟨l₁, l₂, hentries, hname, hkentries, hksel, hksubs, -⟩ := Container.remove?_some hr
  have he_mem : e ∈ h.container.entries := by rw [hentries]; simp
  have hsub : List.Sublist (l₁ ++ l₂) h.container.entries := by
    rw [hentries]
    exact (List.sublist_cons_self e l₂).append_left l₁
  have hmem : ∀ m, m ∈ (l₁ ++ l₂).map (·.name) ↔
      m ∈ h.container.entries.map (·.name) ∧ m ≠ e.name := by
    rw [hentries]
    exact mem_names_remove (hentries ▸ ho.names)
  -- the entries left have other names than the closed one
  have hout : ∀ e' ∈ l₁ ++ l₂, e'.name ≠ e.name := fun e' he' => ((hmem _).mp (List.mem_map_of_mem he')).2
  -- the entry shows the session registered under its name, and has the hook
  obtain ⟨hsess, hhook⟩ := ho.slots e he_mem
  obtain ⟨t, ht⟩ : ∃ t, c.registry.find? e.name = some t := by
    rw [← hreg₀]
    exact Option.isSome_iff_exists.mp ((ho.keys e.name).mpr (List.mem_map_of_mem he_mem))
  rw [hreg₀, ht] at hsess
  obtain ⟨H, hf, hHd, hHc, hHk, heq⟩ := removeEntry_hooked hr hhook hsess hc ht
  have hHreg : H.controllerRegistry = c.registry.erase e.name := controllerRegistry_of hHc
  refine ⟨H, hf, ⟨by simp [hHc], hf.bridged.trans ho.bridged, ?_, ?_, ?_, ?_, ?_, ?_, ?_, ?_, ?_, ?_⟩,
    heq⟩
  · rw [hHk, hkentries]
    exact ho.names.sublist (hsub.map _)
  · intro m
    rw [hHreg, hHk, hkentries, hmem]
    by_cases hm : m = e.name
    · simp [hm]
    · rw [Registry.find?_erase_ne _ hm, ← hreg₀, ho.keys m]
      simp [hm]
  · intro e' he'
    rw [hHk, hkentries] at he'
    rw [hHreg, Registry.find?_erase_ne _ (hout e' he'), ← hreg₀]
    exact ho.slots e' (hsub.subset he')
  · intro t' ht'
    rw [hHreg]
    obtain ⟨hsize, hr'⟩ := hf.released (ho.released t' ht')
    refine ⟨hsize, ?_⟩
    rcases hr' with ⟨m, hm⟩ | hd
    · rw [hreg₀] at hm
      by_cases hmn : m = e.name
      · -- the session under the closed name is the one the hook disposed
        subst hmn
        obtain rfl : t = t' := Option.some.inj (ht.symm.trans hm)
        exact .inr hHd
      · exact .inl ⟨m, by rw [Registry.find?_erase_ne _ hmn]; exact hm⟩
    · exact .inr hd
  · intro m hm
    rw [hHk, hksel] at hm
    rw [hHk, hkentries]
    split at hm
    · obtain ⟨a, ha, rfl⟩ := Option.map_eq_some_iff.mp hm
      exact List.mem_map_of_mem (List.mem_of_getLast? ha)
    · rename_i hsel
      refine (hmem m).mpr ⟨ho.selected m hm, fun hme => hsel ?_⟩
      rw [hm, hme, hname]
  · intro hne
    rw [hHk, hkentries] at hne
    rw [hHk, hksel]
    split
    · rw [Option.isSome_map, List.getLast?_isSome]
      exact hne
    · exact ho.selects (List.ne_nil_of_mem he_mem)
  · intro c' hc'
    rw [hHc] at hc'
    obtain rfl := Option.some.inj hc'
    rw [hHk, hksubs]
    exact ho.subscribed c hc
  · intro m t' ht'
    rw [hHreg] at ht'
    have hmn : m ≠ e.name := by
      rintro rfl
      simp at ht'
    rw [Registry.find?_erase_ne _ hmn, ← hreg₀] at ht'
    exact ho.labelled_after hf ht'
  · rw [hHk, hkentries]
    exact ho.surfaces.sublist (hsub.map _)
  · intro e' he'
    rw [hHk, hkentries] at he'
    exact Nat.lt_of_lt_of_le (ho.drawn e' (hsub.subset he')) hf.sinks

/-! ### Respawning -/

/-- The sessions made from `h` to `h'`: those past the ones `h` has. -/
def made (h h' : Host T) : List Nat := List.range' h.sessions.size (h'.sessions.size - h.sessions.size)

theorem made_of_count (hc : h'.sessions.size = h.sessions.size) : made h h' = [] := by
  simp [made, hc]

theorem made_congr (hc : h'.sessions.size = h.sessions.size) (h'' : Host T) : made h' h'' = made h h'' := by
  simp [made, hc]

/-- Respawning `r` keeps the desk in order, counting the sessions it makes
    among the known ones, and removes no session. -/
def Tends (r : Host T → Host T) : Prop :=
  ∀ known h, Orderly known h → Orderly (known ++ made h (r h)) (r h) ∧ h.sessions.size ≤ (r h).sessions.size

theorem Tends.notifyWith {r : Host T → Host T} (hr : Tends r) : Tends (notifyWith r) := by
  intro known h ho
  unfold Host.notifyWith
  split
  · exact hr known h ho
  · rw [made_of_count rfl, List.append_nil]
    exact ⟨ho, Nat.le_refl _⟩

/-- Launching a console keeps the desk in order: the session it makes is
    bound, or disposed when it does not start. It never respawns, since
    binding notifies only once the container has an entry. -/
theorem Orderly.launchInto (ho : Orderly known h) (r : Host T → Host T) :
    Orderly (known ++ made h (launchInto r h).1) (launchInto r h).1 ∧
      h.sessions.size ≤ (launchInto r h).1.sessions.size := by
  unfold Host.launchInto
  split
  · -- the factory fails: only its flag changes
    have ha : Aside h { h with factory := { h.factory with panicNext := false } } :=
      aside_of_sessions rfl rfl rfl rfl rfl
    rw [made_of_count ha.frame.count, List.append_nil]
    exact ⟨ho.aside ha, Nat.le_of_eq ha.frame.count.symm⟩
  · -- the new session is the last one; starting it leaves the desk alone
    generalize hy : Session.create h.nextName h.factory.spec h.factory.options = y
    have ho₁ := ho.addSession y
    have hsize₁ : (h.addSession y).1.sessions.size = h.sessions.size + 1 := by simp [Host.addSession]
    have ha := aside_start (h := (h.addSession y).1) (s := h.sessions.size) (fun h => (h, ()))
      (fun h => .refl h)
    have hmade : ∀ H : Host T, H.sessions.size = h.sessions.size + 1 → made h H = [h.sessions.size] := by
      intro H hH
      simp [made, hH]
    dsimp only [Host.addSession] at ha ho₁ hsize₁ ⊢
    rcases hst : Host.start { h with sessions := h.sessions.push y } h.sessions.size (fun h => (h, ()))
      with ⟨h₂, u, _ | _⟩ <;> rw [hst] at ha <;> dsimp only at ha
    · -- it did not start, and is disposed
      have hsize₂ : (h₂.dispose h.sessions.size).sessions.size = h.sessions.size + 1 := by
        rw [aside_dispose.frame.count, ha.frame.count, hsize₁]
      dsimp only
      rw [hmade _ hsize₂]
      refine ⟨(ho₁.aside (ha.trans aside_dispose)).disposed (by omega) (stateOf_dispose _ _), by omega⟩
    · -- it started, and is bound
      obtain ⟨hob, hsizeb⟩ := (ho₁.aside ha).bind (s := h.sessions.size)
        (by rw [ha.frame.count, hsize₁]; omega) r
      have hsize₂ : (Host.bind r h₂ h.sessions.size).1.sessions.size = h.sessions.size + 1 := by
        rw [hsizeb, ha.frame.count, hsize₁]
      dsimp only
      rw [hmade _ hsize₂]
      exact ⟨hob, by omega⟩

theorem tends_launchInto (r : Host T → Host T) : Tends fun h => (launchInto r h).1 :=
  fun _ _ ho => ho.launchInto r

theorem tends_respawner : ∀ depth, Tends (respawner depth : Host T → Host T)
  | 0 => fun known h ho => ⟨by rw [respawner, made_of_count rfl, List.append_nil]; exact ho, Nat.le_refl _⟩
  | depth + 1 => tends_launchInto (respawner depth)

theorem tends_respawn : Tends (respawn : Host T → Host T) := tends_respawner respawnDepth

end Host

end ReplHost
