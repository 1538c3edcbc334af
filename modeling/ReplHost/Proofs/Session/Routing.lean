import ReplHost.Proofs.Session.Lifecycle
import ReplHost.Proofs.Output.Buffer

/-! # Where a session's output goes

  A session hands each chunk it emits to its sink while someone still holds
  the sink, and to its buffer otherwise; attaching a sink first hands it the
  buffered chunks, oldest first. Since the buffer is empty whenever the sink
  is held (`Console.Sound.quiet`), nothing is ever overtaken.

  `Arrival L es cs` says how the emitted chunks `es`, each marked with
  whether it went to the buffer, arrive as the chunks `cs`: one that went
  straight to a sink arrives as it is; one that went to a buffer of limit
  `L` arrives as the buffer admitted it, cut to the tail of its text that
  fits, or not at all, when the buffer refused or evicted it or was
  cleared. Nothing is reordered or arrives twice.

  In every reachable state, the history of the system is split in two:
  the older chunks arrived, in order, as the pieces sinks received, and the
  newer ones, all buffered, are what the buffer holds (`Console.Routed`).
-/

namespace ReplHost

variable {T : Type}

/-- How emitted chunks, each marked with whether it went to the buffer,
    arrive, in order, for a buffer of limit `limit`. -/
inductive Arrival (limit : Nat) : List (Chunk × Bool) → List Chunk → Prop where
  | nil : Arrival limit [] []
  /-- A chunk written straight to a sink arrives as it is. -/
  | direct {es : List (Chunk × Bool)} {cs : List Chunk} (c : Chunk) :
      Arrival limit es cs → Arrival limit ((c, false) :: es) (c :: cs)
  /-- A buffered chunk arrives as the buffer admitted it. -/
  | kept {es : List (Chunk × Bool)} {cs : List Chunk} (c : Chunk) :
      Arrival limit es cs →
      Arrival limit ((c, true) :: es) (⟨(OutputBuffer.keepTail limit c.text).2, c.kind⟩ :: cs)
  /-- A buffered chunk may be lost. -/
  | lost {es : List (Chunk × Bool)} {cs : List Chunk} (c : Chunk) :
      Arrival limit es cs → Arrival limit ((c, true) :: es) cs

namespace Arrival

variable {L : Nat} {es es' : List (Chunk × Bool)} {cs cs' : List Chunk}

theorem append (h : Arrival L es cs) (h' : Arrival L es' cs') : Arrival L (es ++ es') (cs ++ cs') := by
  induction h with
  | nil => exact h'
  | direct c _ ih => exact .direct c ih
  | kept c _ ih => exact .kept c ih
  | lost c _ ih => exact .lost c ih

/-- Buffered chunks may all be lost. -/
theorem lost_all (hb : ∀ e ∈ es, e.2 = true) : Arrival L es [] := by
  induction es with
  | nil => exact .nil
  | cons e es ih =>
    obtain ⟨c, b⟩ := e
    obtain rfl : b = true := hb _ List.mem_cons_self
    exact .lost c (ih fun e he => hb e (List.mem_cons_of_mem _ he))

/-- When all chunks went to the buffer, the oldest that arrived may be lost
    instead. -/
theorem drop_oldest {c : Chunk} (h : Arrival L es (c :: cs)) (hb : ∀ e ∈ es, e.2 = true) :
    Arrival L es cs := by
  generalize hcs : c :: cs = cs₁ at h
  induction h generalizing cs with
  | nil => cases hcs
  | direct c' _ _ => cases hb _ List.mem_cons_self
  | kept c' h _ =>
    cases hcs
    exact .lost c' h
  | lost c' _ ih =>
    exact .lost c' (ih (fun e he => hb e (List.mem_cons_of_mem _ he)) hcs)

theorem drop_prefix {p : List Chunk} (h : Arrival L es (p ++ cs)) (hb : ∀ e ∈ es, e.2 = true) :
    Arrival L es cs := by
  induction p with
  | nil => exact h
  | cons c p ih => exact ih (h.drop_oldest hb)

theorem buffered_snoc (hb : ∀ e ∈ es, e.2 = true) (c : Chunk) :
    ∀ e ∈ es ++ [(c, true)], e.2 = true := by
  intro e he
  rcases List.mem_append.mp he with he | he
  · exact hb e he
  · simp at he
    simp [he]

/-- Pushing a chunk to a buffer of limit `L` keeps what the buffer holds the
    arrival of the buffered chunks, the new one last. -/
theorem push {b : OutputBuffer} (h : Arrival L es b.chunks) (hb : ∀ e ∈ es, e.2 = true)
    (hl : b.limit = L) (c : Chunk) :
    Arrival L (es ++ [(c, true)]) (b.push c.text c.kind).chunks := by
  have hb' := buffered_snoc hb c
  rcases OutputBuffer.push_chunks b c.text c.kind with heq | ⟨p, hp⟩
  · rw [heq, ← List.append_nil b.chunks]
    exact h.append (.lost c .nil)
  · apply drop_prefix (p := p) _ hb'
    rw [← hp, hl]
    exact h.append (.kept c .nil)

end Arrival

namespace Host

variable {h h' : Host T} {s k : Nat} {x : Session}

/-! ### What sinks receive -/

@[simp] theorem sinkChunks_modifySession (h : Host T) (s : Nat) (f : Session → Session) (j : Nat) :
    (h.modifySession s f).sinkChunks j = h.sinkChunks j := rfl

theorem sinkChunks_writeSink (hk : k < h.sinks.size) (text : String) (kind : OutputKind) (j : Nat) :
    (h.writeSink k text kind).sinkChunks j =
      if j = k then h.sinkChunks j ++ [⟨text, kind⟩] else h.sinkChunks j := by
  by_cases hj : j = k
  · subst hj
    simp [writeSink, sinkChunks, Array.getElem_modify, hk, Surface.write]
  · simp [writeSink, sinkChunks, Array.getElem?_modify, hj, Ne.symm hj]

theorem sinkChunks_foldl_writeSink (cs : List Chunk) (hk : k < h.sinks.size) (j : Nat) :
    (cs.foldl (fun h c => h.writeSink k c.text c.kind) h).sinkChunks j =
      if j = k then h.sinkChunks j ++ cs else h.sinkChunks j := by
  induction cs generalizing h with
  | nil => simp
  | cons c cs ih =>
    rw [List.foldl_cons, ih (by simpa using hk), sinkChunks_writeSink hk]
    split <;> simp

/-- What sinks received in a change depends only on the sinks. -/
theorem written_congr {h₁ h₂ : Host T} (hs : h₁.sinks = h₂.sinks) (h' : Host T) :
    h₁.written h' = h₂.written h' := by
  simp only [written, sinkChunks, hs]

theorem written_of_sinks (hs : h'.sinks = h.sinks) : h.written h' = [] := by
  simp [written, sinkChunks, hs]

theorem flatMap_range_single {α : Type} {n : Nat} {f : Nat → List α} (hk : k < n)
    (hf : ∀ j, j ≠ k → f j = []) : (List.range n).flatMap f = f k := by
  induction n with
  | zero => omega
  | succ n ih =>
    rw [List.range_succ, List.flatMap_append]
    by_cases hkn : k = n
    · subst hkn
      have hnil : (List.range k).flatMap f = [] :=
        List.flatMap_eq_nil_iff.mpr fun j hj => hf j (by simp at hj; omega)
      simp [hnil]
    · simp [ih (by omega), hf n (Ne.symm hkn)]

/-- When one sink got new pieces and no other changed, those pieces are what
    sinks received. -/
theorem written_single {new : List Chunk} (hsize : h'.sinks.size = h.sinks.size)
    (hk : k < h.sinks.size) (hk' : h'.sinkChunks k = h.sinkChunks k ++ new)
    (hother : ∀ j, j ≠ k → h'.sinkChunks j = h.sinkChunks j) :
    h.written h' = new.map (k, ·) := by
  unfold written
  rw [hsize, flatMap_range_single hk (fun j hj => by simp [hother j hj]), hk']
  simp

theorem written_writeSink (hk : k < h.sinks.size) (text : String) (kind : OutputKind) :
    h.written (h.writeSink k text kind) = [(k, ⟨text, kind⟩)] := by
  show h.written (h.writeSink k text kind) = [⟨text, kind⟩].map (k, ·)
  exact written_single (by simp) hk (by simp [sinkChunks_writeSink hk])
    (fun j hj => by simp [sinkChunks_writeSink hk, hj])

/-- Attaching sink `k` hands it exactly the buffered chunks, oldest first. -/
theorem written_attach (hx : h.session? s = some x) (hd : x.state ≠ .disposed)
    (hk : k < h.sinks.size) : h.written (h.attach s k) = x.buffer.chunks.map (k, ·) := by
  have hk₀ : k < (h.modifySession s fun y => { y with sink := none, buffer := x.buffer.drain.2 }).sinks.size := hk
  have hsize := (foldl_writeSink_frame k x.buffer.chunks
    (h.modifySession s fun y => { y with sink := none, buffer := x.buffer.drain.2 })).2.2.2
  simp only [attach, hx, hd, if_false, OutputBuffer.drain_fst]
  exact written_single (by simpa using hsize) hk
    (by simp [sinkChunks_foldl_writeSink _ hk₀])
    (fun j hj => by simp [sinkChunks_foldl_writeSink _ hk₀, hj])

/-! ### Changes that leave the output alone -/

/-- A change of the host that writes to no sink and leaves the buffer of
    session `s` as it is. -/
structure Quiet (s : Nat) (h h' : Host T) : Prop where
  sinks : h'.sinks = h.sinks
  alive : h'.sinkAlive = h.sinkAlive
  buffer : (h'.session? s).map (·.buffer) = (h.session? s).map (·.buffer)

theorem Quiet.refl (s : Nat) (h : Host T) : Quiet s h h := ⟨rfl, rfl, rfl⟩

theorem Quiet.trans {h'' : Host T} (h₁ : Quiet s h h') (h₂ : Quiet s h' h'') : Quiet s h h'' :=
  ⟨h₂.sinks.trans h₁.sinks, h₂.alive.trans h₁.alive, h₂.buffer.trans h₁.buffer⟩

theorem quiet_modifySession {t : Nat} {f : Session → Session} (hf : ∀ y, (f y).buffer = y.buffer) :
    Quiet s h (h.modifySession t f) := by
  refine ⟨rfl, rfl, ?_⟩
  rw [session?_modifySession]
  split
  · cases h.session? s <;> simp [hf]
  · rfl

theorem quiet_killChild (c : Nat) : Quiet s h (h.killChild c) := ⟨by simp, by simp, by simp⟩

theorem quiet_writeChild (c : Nat) (bytes : List UInt8) : Quiet s h (h.writeChild c bytes) :=
  ⟨by simp, by simp, by simp⟩

theorem quiet_launch (spec : LaunchSpec) : Quiet s h (h.launch spec).1 :=
  ⟨by simp, by simp, by simp⟩

theorem quiet_adopt (t c : Nat) (strip : Bool) : Quiet s h (h.adopt t c strip) := by
  refine ⟨rfl, rfl, ?_⟩
  rw [session?_adopt]
  exact (quiet_modifySession (fun y => by simp [Session.enter])).buffer

theorem quiet_startBegin {spec : LaunchSpec} (hb : h.startBegin s = .ok (h', spec)) : Quiet s h h' := by
  obtain ⟨-, -, -, -, rfl, -⟩ := startBegin_eq_ok.mp hb
  exact quiet_modifySession fun _ => rfl

/-- The last part of a start touches no buffer and no sink, whatever it
    finds. -/
theorem quiet_startFinish (r : Except HostError Nat) : Quiet s h (h.startFinish s r).1 := by
  have hclear : Quiet s h (h.modifySession s fun y => { y with starting := false }) :=
    quiet_modifySession fun _ => rfl
  dsimp only [startFinish]
  split
  · exact hclear
  · split
    · exact hclear.trans (quiet_killChild _)
    · split
      · exact hclear.trans (quiet_killChild _)
      · split
        · exact hclear.trans (quiet_adopt _ _ _)
        · exact hclear

theorem quiet_terminate : Quiet s h (h.terminate s).1 := by
  have hstop : ∀ h : Host T, Quiet s h
      (h.modifySession s fun x => Session.enter { x with writer := none } .terminated) :=
    fun _ => quiet_modifySession fun _ => rfl
  unfold terminate
  split
  · exact .refl s h
  · exact .refl s h
  · exact .refl s h
  · split
    · exact (quiet_killChild _).trans (hstop _)
    · exact hstop _

theorem quiet_executeVia (faults : WriteFaults) (line : String) : Quiet s h (h.executeVia faults s line).1 := by
  have hbegin : Quiet s h (h.modifySession s fun x => { x with prompt := x.prompt.begin }) :=
    quiet_modifySession fun _ => rfl
  unfold executeVia
  split
  · exact .refl s h
  · split
    · exact .refl s h
    · split
      · exact hbegin
      · split <;> exact hbegin.trans (quiet_writeChild _ _)

theorem quiet_execute (line : String) : Quiet s h (h.execute s line).1 := quiet_executeVia {} line

theorem quiet_detach : Quiet s h (h.detach s) := quiet_modifySession fun _ => rfl

theorem Quiet.session {y : Session} (hq : Quiet s h h') (hx : h.session? s = some x)
    (hy : h'.session? s = some y) : y.buffer = x.buffer := by
  have hb := hq.buffer
  rw [hx, hy] at hb
  exact Option.some.inj hb

/-! ### Steps that emit -/

/-- A change of the host that leaves the output alone and then has session
    `s`, whose record was `x`, emit chunk `ch`. -/
def QuietThenEmit (s : Nat) (h h' : Host T) (x : Session) (ch : Chunk) : Prop :=
  ∃ H y, Quiet s h H ∧ H.session? s = some y ∧ y.sink = x.sink ∧ h' = H.emit s ch.text ch.kind

/-- A delivery emits nothing and leaves the output alone, or emits the
    cleaned text as seen from the sink held at that moment. -/
theorem deliver_shape (hx : h.session? s = some x) (text : String) :
    (h.emission s (.deliver text) = [] ∧ Quiet s h ((h.deliver s text).getD h)) ∨
      ∃ ch, h.emission s (.deliver text) = [(ch, (h.liveSink x).isNone)] ∧
        QuietThenEmit s h ((h.deliver s text).getD h) x ch := by
  by_cases hd : x.state = .disposed
  · left
    rw [deliver_disposed hx hd]
    exact ⟨by simp [emission, hx, hd], .refl s h⟩
  · have hp : Quiet s h (h.modifySession s fun y => { y with prompt := (x.prompt.process text).1 }) :=
      quiet_modifySession fun _ => rfl
    rw [deliver_live hx hd]
    by_cases he : (x.prompt.process text).2.isEmpty
    · left
      simp only [he, if_true, Option.getD_some]
      exact ⟨by simp [emission, hx, hd, he], hp⟩
    · right
      refine ⟨⟨(x.prompt.process text).2, .stdout⟩, by simp [emission, hx, hd, he], _,
        { x with prompt := (x.prompt.process text).1 }, hp, by simp [hx], rfl, by simp [he]⟩

/-- The end of the output emits nothing and leaves the output alone, or
    emits the exit notice, when the session reports exits. -/
theorem close_shape (hx : h.session? s = some x) (code : Option Int) :
    (h.emission s (.close code) = [] ∧ Quiet s h (h.outputClosed s code)) ∨
      ∃ ch, h.emission s (.close code) = [(ch, (h.liveSink x).isNone)] ∧
        QuietThenEmit s h (h.outputClosed s code) x ch := by
  by_cases hd : x.state = .disposed
  · left
    rw [outputClosed_disposed hx hd]
    exact ⟨by simp [emission, hx, hd], .refl s h⟩
  · have hq : Quiet s h (h.modifySession s (·.outputEnded code)) :=
      quiet_modifySession fun y => (Session.outputEnded_keeps y code).2.2.2
    rw [outputClosed_live hx hd]
    by_cases hr : x.options.reportExit
    · right
      refine ⟨⟨Session.exitNotice (x.outputEnded code).exitCode, .system⟩,
        by simp [emission, hx, hd, hr], _, x.outputEnded code, hq, by simp [hx],
        (Session.outputEnded_keeps x code).2.2.1, by simp [hr]⟩
    · left
      exact ⟨by simp [emission, hx, hd, hr], by simpa [hr] using hq⟩

/-- Emitted while sink `k` is held, a chunk is written to `k`, and to no
    other sink, and the buffer stays as it was. -/
theorem QuietThenEmit.to_sink {ch : Chunk} (he : QuietThenEmit s h h' x ch)
    (hx : h.session? s = some x) (hk : h.liveSink x = some k) (hsize : k < h.sinks.size) :
    h.written h' = [(k, ch)] ∧ ∃ x', h'.session? s = some x' ∧ x'.buffer = x.buffer := by
  obtain ⟨H, y, hq, hy, hsink, rfl⟩ := he
  have hk' : H.liveSink y = some k := by
    simpa [liveSink, hsink, hq.alive] using hk
  rw [emit_live hy hk', written_congr hq.sinks.symm, written_writeSink (by rw [hq.sinks]; exact hsize)]
  exact ⟨rfl, y, by simpa using hy, hq.session hx hy⟩

/-- Emitted while no sink is held, a chunk is pushed to the buffer, and no
    sink receives anything. -/
theorem QuietThenEmit.to_buffer {ch : Chunk} (he : QuietThenEmit s h h' x ch)
    (hx : h.session? s = some x) (hl : h.liveSink x = none) :
    h.written h' = [] ∧ ∃ x', h'.session? s = some x' ∧ x'.buffer = x.buffer.push ch.text ch.kind := by
  obtain ⟨H, y, hq, hy, hsink, rfl⟩ := he
  have hl' : H.liveSink y = none := by
    simpa [liveSink, hsink, hq.alive] using hl
  rw [emit_buffered hy hl']
  refine ⟨written_of_sinks (by simpa using hq.sinks), { y with buffer := y.buffer.push ch.text ch.kind },
    by simp [hy], ?_⟩
  simp [hq.session hx hy]

end Host

namespace Console

variable {s L : Nat} {σ σ' : Console T} {c : Call T} {r : Except HostError Unit} {x : Session}
  {em : List (Chunk × Bool)} {rc : List (Nat × Chunk)} {b : OutputBuffer}

/-- Where the chunks emitted so far went, while the session's buffer is `b`,
    of limit `L`: the older ones arrived, in order, as the pieces sinks
    received, and the newer ones, all buffered, as what `b` holds. -/
structure Routes (L : Nat) (em : List (Chunk × Bool)) (rc : List (Nat × Chunk))
    (b : OutputBuffer) : Prop where
  limit : b.limit = L
  split : ∃ es₁ es₂, em = es₁ ++ es₂ ∧ Arrival L es₁ (rc.map (·.2)) ∧
    Arrival L es₂ b.chunks ∧ ∀ e ∈ es₂, e.2 = true

namespace Routes

/-- Everything emitted arrived as what sinks received, once what is still
    buffered is counted as lost. -/
theorem arrival (hr : Routes L em rc b) : Arrival L em (rc.map (·.2)) := by
  obtain ⟨es₁, es₂, rfl, h₁, -, hb⟩ := hr.split
  simpa using h₁.append (Arrival.lost_all hb)

theorem clear (hr : Routes L em rc b) : Routes L em rc b.clear := by
  obtain ⟨es₁, es₂, he, h₁, -, hb⟩ := hr.split
  exact ⟨hr.limit, es₁, es₂, he, h₁, Arrival.lost_all hb, hb⟩

/-- A chunk written to the held sink, behind an empty buffer, arrives after
    everything emitted before it. -/
theorem direct (hr : Routes L em rc b) (hq : b.chunks = []) (k : Nat) (ch : Chunk) :
    Routes L (em ++ [(ch, false)]) (rc ++ [(k, ch)]) b := by
  obtain ⟨es₁, es₂, rfl, h₁, h₂, -⟩ := hr.split
  rw [hq] at h₂
  refine ⟨hr.limit, es₁ ++ es₂ ++ [(ch, false)], [], by simp, ?_, by rw [hq]; exact .nil, by simp⟩
  simpa using (h₁.append h₂).append (.direct ch .nil)

theorem buffered (hr : Routes L em rc b) (ch : Chunk) :
    Routes L (em ++ [(ch, true)]) rc (b.push ch.text ch.kind) := by
  obtain ⟨es₁, es₂, rfl, h₁, h₂, hb⟩ := hr.split
  exact ⟨by simp [hr.limit], es₁, es₂ ++ [(ch, true)], by simp, h₁, h₂.push hb hr.limit ch,
    Arrival.buffered_snoc hb ch⟩

/-- Attaching a sink flushes the buffer into it: everything emitted so far
    has then arrived. -/
theorem flush (hr : Routes L em rc b) (k : Nat) :
    Routes L em (rc ++ b.chunks.map (k, ·)) b.drain.2 := by
  obtain ⟨es₁, es₂, rfl, h₁, h₂, -⟩ := hr.split
  refine ⟨hr.limit, es₁ ++ es₂, [], by simp, ?_, .nil, by simp⟩
  simpa [Function.comp_def] using h₁.append h₂

end Routes

/-- The routing invariant of the system around session `s`, whose buffer
    has limit `L`. -/
def Routed (s L : Nat) (σ : Console T) : Prop :=
  ∃ x, σ.host.session? s = some x ∧ Routes L σ.emitted σ.received x.buffer

theorem routed_init (hσ : Fresh s σ) : ∃ L, Routed s L σ := by
  obtain ⟨⟨name, spec, options, hx⟩, -, -, he, hr⟩ := hσ
  refine ⟨options.bufferLimit, _, hx, rfl, [], [], by simp [he], ?_, ?_, by simp⟩
  · rw [hr]
    exact .nil
  · exact .nil

/-- A call that emits nothing and leaves the output alone keeps the routing. -/
theorem routed_quiet {h : Host T} {fl : List Flight} (hR : Routed s L σ) (hq : Host.Quiet s σ.host h)
    (he : σ.host.emission s c = []) : Routed s L (σ.after s c h fl) := by
  obtain ⟨x, hx, hr⟩ := hR
  have hb := hq.buffer
  rw [hx] at hb
  obtain ⟨x', hx', hbuf⟩ : ∃ x', h.session? s = some x' ∧ x'.buffer = x.buffer := by
    cases hh : h.session? s with
    | none => simp [hh] at hb
    | some x' => exact ⟨x', rfl, by simpa [hh] using hb⟩
  refine ⟨x', hx', ?_⟩
  simpa [after, he, Host.written_of_sinks hq.sinks, hbuf] using hr

/-- A call that emits a chunk keeps the routing: the chunk reaches the held
    sink, behind an empty buffer, or else the buffer. -/
theorem routed_emit {h : Host T} {fl : List Flight} {ch : Chunk} (hR : Routed s L σ)
    (hx : σ.host.session? s = some x) (hs : Sound s σ.host σ.flights x)
    (he : σ.host.emission s c = [(ch, (σ.host.liveSink x).isNone)])
    (hqe : Host.QuietThenEmit s σ.host h x ch) : Routed s L (σ.after s c h fl) := by
  obtain ⟨x₀, hx₀, hr⟩ := hR
  obtain rfl : x = x₀ := Option.some.inj (hx.symm.trans hx₀)
  cases hl : σ.host.liveSink x with
  | some k =>
    obtain ⟨hk, -⟩ := Host.liveSink_eq_some.mp hl
    obtain ⟨hw, x', hx', hbuf⟩ := hqe.to_sink hx hl (hs.sink k hk)
    refine ⟨x', hx', ?_⟩
    have hq : x.buffer.chunks = [] := hs.quiet (by simp [hl])
    simpa [after, he, hl, hw, hbuf] using hr.direct hq k ch
  | none =>
    obtain ⟨hw, x', hx', hbuf⟩ := hqe.to_buffer hx hl
    refine ⟨x', hx', ?_⟩
    simpa [after, he, hl, hw, hbuf] using hr.buffered ch

theorem routed_dispose (hR : Routed s L σ) (hx : σ.host.session? s = some x) :
    Routed s L (σ.after s .dispose (σ.host.dispose s) σ.flights) := by
  by_cases hd : x.state = .disposed
  · rw [Host.dispose_disposed hx hd]
    exact routed_quiet hR (.refl s _) rfl
  · rw [Host.dispose_live hx hd]
    obtain ⟨x₀, hx₀, hr⟩ := hR
    obtain rfl : x = x₀ := Option.some.inj (hx.symm.trans hx₀)
    -- disposing clears the buffer: what it held is lost
    have he : σ.host.emission s .dispose = [] := rfl
    have hw : σ.host.written (σ.host.modifySession s Session.release) = [] := Host.written_of_sinks rfl
    refine ⟨x.release, by simp [hx], ?_⟩
    simpa [after, he, hw, Session.release, Session.enter] using hr.clear

theorem routed_attach {k : Nat} (hR : Routed s L σ) (hx : σ.host.session? s = some x)
    (hk : k < σ.host.sinks.size) :
    Routed s L (σ.after s (.attach k) (σ.host.attach s k) σ.flights) := by
  by_cases hd : x.state = .disposed
  · rw [Host.attach_disposed hx hd]
    exact routed_quiet hR (.refl s _) rfl
  · obtain ⟨x₀, hx₀, hr⟩ := hR
    obtain rfl : x = x₀ := Option.some.inj (hx.symm.trans hx₀)
    have he : σ.host.emission s (.attach k) = [] := rfl
    refine ⟨_, Host.session?_attach hx hd, ?_⟩
    simpa [after, he, Host.written_attach hx hd hk] using hr.flush k

/-- Every call keeps the routing. -/
theorem routed_step (hinv : Inv s σ) (hR : Routed s L σ) (hstep : Step s σ c r σ') :
    Routed s L σ' := by
  obtain ⟨x, hx, hs⟩ := hinv
  cases hstep with
  | begin hb => exact routed_quiet hR (Host.quiet_startBegin hb) rfl
  | refuse _ => exact hR
  | launch _ => exact routed_quiet hR (Host.quiet_launch _) rfl
  | finish _ => exact routed_quiet hR (Host.quiet_startFinish _) rfl
  | terminate => exact routed_quiet hR Host.quiet_terminate rfl
  | dispose => exact routed_dispose hR hx
  | execute => exact routed_quiet hR (Host.quiet_execute _) rfl
  | attach hk _ => exact routed_attach hR hx hk
  | detach => exact routed_quiet hR Host.quiet_detach rfl
  | deliver _ =>
    rcases Host.deliver_shape hx _ with ⟨he, hq⟩ | ⟨ch, he, hqe⟩
    · exact routed_quiet hR hq he
    · exact routed_emit hR hx hs he hqe
  | close _ =>
    rcases Host.close_shape hx _ with ⟨he, hq⟩ | ⟨ch, he, hqe⟩
    · exact routed_quiet hR hq he
    · exact routed_emit hR hx hs he hqe
  | world hw =>
    obtain ⟨x', hx', hr⟩ := hR
    exact ⟨x', hw.session.trans hx', hr⟩

theorem Reachable.routed (hσ : Reachable s σ) : ∃ L, Routed s L σ := by
  induction hσ with
  | init hfresh => exact routed_init hfresh
  | step hσ hstep ih =>
    obtain ⟨L, hR⟩ := ih
    exact ⟨L, routed_step hσ.inv hR hstep⟩

/-! ### Each chunk at the moment it is emitted -/

theorem emits_of_shape {h : Host T} {fl : List Flight} {ch ch' : Chunk} {bit : Bool}
    (hx : σ.host.session? s = some x) (hs : Sound s σ.host σ.flights x)
    (he : σ.host.emission s c = [(ch, bit)])
    (he' : σ.host.emission s c = [(ch', (σ.host.liveSink x).isNone)])
    (hqe : Host.QuietThenEmit s σ.host h x ch') :
    (bit = false → ∃ k, σ.host.liveSink x = some k ∧
      (σ.after s c h fl).received = σ.received ++ [(k, ch)]) ∧
    (bit = true → (σ.after s c h fl).received = σ.received ∧
      ∃ x', h.session? s = some x' ∧ x'.buffer = x.buffer.push ch.text ch.kind) := by
  rw [he'] at he
  obtain ⟨rfl, rfl⟩ := Prod.mk.inj (List.cons.inj he).1
  cases hl : σ.host.liveSink x with
  | some k =>
    obtain ⟨hk, -⟩ := Host.liveSink_eq_some.mp hl
    obtain ⟨hw, -⟩ := hqe.to_sink hx hl (hs.sink k hk)
    exact ⟨fun _ => ⟨k, rfl, by simp [after, hw]⟩, fun hb => by simp at hb⟩
  | none =>
    obtain ⟨hw, hbuf⟩ := hqe.to_buffer hx hl
    exact ⟨fun hb => by simp at hb, fun _ => ⟨by simp [after, hw], hbuf⟩⟩

/-- At the moment a chunk is emitted, it is written to the sink held then,
    or, when none is, pushed to the buffer. -/
theorem step_emits {ch : Chunk} {bit : Bool} (hσ : Reachable s σ) (hx : σ.host.session? s = some x)
    (hstep : Step s σ c r σ') (he : σ.host.emission s c = [(ch, bit)]) :
    (bit = false → ∃ k, σ.host.liveSink x = some k ∧ σ'.received = σ.received ++ [(k, ch)]) ∧
    (bit = true → σ'.received = σ.received ∧
      ∃ x', σ'.host.session? s = some x' ∧ x'.buffer = x.buffer.push ch.text ch.kind) := by
  obtain ⟨x₀, hx₀, hs⟩ := hσ.inv
  obtain rfl : x = x₀ := Option.some.inj (hx.symm.trans hx₀)
  cases hstep with
  | deliver _ =>
    rcases Host.deliver_shape hx _ with ⟨he', -⟩ | ⟨ch', he', hqe⟩
    · rw [he'] at he
      cases he
    · exact emits_of_shape hx hs he he' hqe
  | close _ =>
    rcases Host.close_shape hx _ with ⟨he', -⟩ | ⟨ch', he', hqe⟩
    · rw [he'] at he
      cases he
    · exact emits_of_shape hx hs he he' hqe
  | _ => simp [Host.emission] at he

/-- Attaching a sink hands it every buffered chunk, oldest first, and leaves
    the buffer empty, so these arrive before any chunk emitted later. -/
theorem step_attach {k : Nat} (hx : σ.host.session? s = some x) (hstep : Step s σ (.attach k) r σ')
    (hd : x.state ≠ .disposed) :
    σ'.received = σ.received ++ x.buffer.chunks.map (k, ·) ∧
      ∃ x', σ'.host.session? s = some x' ∧ x'.sink = some k ∧ x'.buffer.chunks = [] := by
  cases hstep with
  | attach hk _ =>
    exact ⟨by simp [after, Host.written_attach hx hd hk], _, Host.session?_attach hx hd, rfl, rfl⟩

/-! ### Where the output goes -/

/-- In every reachable state: while the session's sink is held, its buffer
    is empty; everything the session emitted arrived, in order and at most
    once, as the pieces sinks received, each buffered chunk cut to the tail
    the buffer's limit admits, or lost; at the moment of emission each chunk
    is written to the sink held then, or pushed to the buffer; and attaching
    a sink hands it every buffered chunk, oldest first, before any new one. -/
theorem output_reaches_sinks_in_order (hσ : Reachable s σ) :
    ∃ x, σ.host.session? s = some x ∧
      ((σ.host.liveSink x).isSome → x.buffer.chunks = []) ∧
      Arrival x.buffer.limit σ.emitted (σ.received.map (·.2)) ∧
      (∀ (c : Call T) (r : Except HostError Unit) (σ' : Console T) (ch : Chunk) (bit : Bool),
        Step s σ c r σ' → σ.host.emission s c = [(ch, bit)] →
        (bit = false → ∃ k, σ.host.liveSink x = some k ∧ σ'.received = σ.received ++ [(k, ch)]) ∧
        (bit = true → σ'.received = σ.received ∧
          ∃ x', σ'.host.session? s = some x' ∧ x'.buffer = x.buffer.push ch.text ch.kind)) ∧
      (∀ (k : Nat) (r : Except HostError Unit) (σ' : Console T), Step s σ (.attach k) r σ' →
        x.state ≠ .disposed →
        σ'.received = σ.received ++ x.buffer.chunks.map (k, ·) ∧
          ∃ x', σ'.host.session? s = some x' ∧ x'.sink = some k ∧ x'.buffer.chunks = []) := by
  obtain ⟨x, hx, hs⟩ := hσ.inv
  obtain ⟨L, x₀, hx₀, hr⟩ := hσ.routed
  obtain rfl : x = x₀ := Option.some.inj (hx.symm.trans hx₀)
  have harrival : Arrival x.buffer.limit σ.emitted (σ.received.map (·.2)) := by
    rw [hr.limit]
    exact hr.arrival
  exact ⟨x, hx, hs.quiet, harrival, fun c r σ' ch bit hstep he => step_emits hσ hx hstep he,
    fun k r σ' hstep hd => step_attach hx hstep hd⟩

/-- A running console's first line waits in its buffer while no sink shows
    it; attaching the held sink flushes it there, and the next line goes to
    the sink directly: the sink receives both, in order. -/
theorem buffered_output_reaches_attached_sink :
    ∃ σ x, Run 0 ({ host := { sessions := #[Session.create "repl" (LaunchSpec.ofProgram "sh") {}], sinks := #[{}], held := [("view", 0)] } } :
          Console Empty)
        [(.begin, .ok ()), (.launch 0, .ok ()), (.finish 0, .ok ()), (.deliver "hi\n", .ok ()), (.attach 0, .ok ()),
          (.deliver "there\n", .ok ())] σ ∧
      σ.host.session? 0 = some x ∧ Arrival x.buffer.limit σ.emitted (σ.received.map (·.2)) ∧
      σ.emitted = [(⟨"hi\n", .stdout⟩, true), (⟨"there\n", .stdout⟩, false)] ∧
      σ.received = [(0, ⟨"hi\n", .stdout⟩), (0, ⟨"there\n", .stdout⟩)] := by
  obtain ⟨σ, hrun, he, hr⟩ :
      ∃ σ, Run 0 ({ host := { sessions := #[Session.create "repl" (LaunchSpec.ofProgram "sh") {}], sinks := #[{}], held := [("view", 0)] } } :
          Console Empty)
          [(.begin, .ok ()), (.launch 0, .ok ()), (.finish 0, .ok ()), (.deliver "hi\n", .ok ()), (.attach 0, .ok ()),
          (.deliver "there\n", .ok ())] σ ∧
        σ.emitted = [(⟨"hi\n", .stdout⟩, true), (⟨"there\n", .stdout⟩, false)] ∧
        σ.received = [(0, ⟨"hi\n", .stdout⟩), (0, ⟨"there\n", .stdout⟩)] :=
    ⟨_, .cons (.begin rfl) (.cons (.launch rfl) (.cons (Step.finish (r := .ok 0) rfl) (.cons (.deliver rfl)
      (.cons (.attach (by decide) rfl) (.cons (.deliver rfl) (.nil _)))))), by decide +kernel, by decide +kernel⟩
  have hfresh : Fresh 0 ({ host := { sessions := #[Session.create "repl" (LaunchSpec.ofProgram "sh") {}], sinks := #[{}], held := [("view", 0)] } } : Console Empty) :=
    ⟨⟨_, _, _, rfl⟩, rfl, rfl, rfl, rfl⟩
  obtain ⟨x, hx, -, harrival, -⟩ := output_reaches_sinks_in_order ((Reachable.init hfresh).run hrun)
  exact ⟨σ, x, hrun, hx, harrival, he, hr⟩

end Console

end ReplHost
