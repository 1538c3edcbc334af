import ReplHost.Proofs.Session.Lifecycle
import Mathlib.Data.List.TakeWhile

/-! # Reading a process's output

  The output of an in-memory process goes down a channel, one message per
  send, and its reader hands each message out in reads into a buffer
  (`MemoryProcess.read`, `MemoryProcess.readLoop`). A read of no bytes is
  the end of the stream. The reader returns one when the channel is empty
  and the process exited, and also when the message it receives is empty.

  With a buffer of any positive size, one round of the reader hands out the
  messages up to the first empty one, each cut into as many reads as it
  takes (`readLoop_eq`). Over any run of sends, exits, kills and rounds of
  the reader (`Watch.run`) in which no message is empty, the reads are the
  bytes sent before the exit, in order, and the stream ends only once the
  process exited and all it sent was read (`Watch.Inv`). In the host, the
  reader of such a process ends its session exactly when the process has
  exited.

  An empty message breaks this: the stream ends there, what was sent after
  it is never read, and the session ends while its process still runs.

  Main statements: `nonempty_output_read_until_exit`,
  `empty_message_ends_output`.
-/

namespace ReplHost

variable {T : Type}

namespace MemoryProcess

variable {size : Nat} {p q : MemoryProcess} {rest more bytes : List UInt8}

/-! ### One read -/

/-- The reads that hand out `bytes` through a buffer of `size` bytes: as
    much as fits, each time. -/
def chunks (size : Nat) : List UInt8 → List (List UInt8)
  | [] => []
  | b :: bs => if size = 0 then [] else (b :: bs).take size :: chunks size ((b :: bs).drop size)
termination_by bytes => bytes.length
decreasing_by simp only [List.length_drop, List.length_cons]; omega

theorem flatten_chunks (hsize : 0 < size) (bytes : List UInt8) : (chunks size bytes).flatten = bytes := by
  fun_induction chunks size bytes with
  | case1 => rfl
  | case2 => omega
  | case3 b bs _ ih => rw [List.flatten_cons, ih, List.take_append_drop]

/-- Each read of a message holds at least one byte and fits the buffer. -/
theorem mem_chunks {r : List UInt8} (hmem : r ∈ chunks size bytes) : r ≠ [] ∧ r.length ≤ size := by
  fun_induction chunks size bytes with
  | case1 => simp at hmem
  | case2 => simp at hmem
  | case3 b bs hsize ih =>
    rcases List.mem_cons.mp hmem with rfl | hmem
    · refine ⟨?_, List.length_take_le _ _⟩
      obtain ⟨n, rfl⟩ := Nat.exists_eq_succ_of_ne_zero hsize
      simp
    · exact ih hmem

theorem read_cons (b : UInt8) (bs : List UInt8) :
    p.read size (b :: bs) = some ((b :: bs).take size, p, (b :: bs).drop size) := rfl

theorem read_receive {msg : List UInt8} {msgs : List (List UInt8)} (hp : p.pending = msg :: msgs) :
    p.read size [] = some (msg.take size, { p with pending := msgs }, msg.drop size) := by
  simp [read, hp]

theorem read_drained (hp : p.pending = []) : p.read size [] = if p.isOpen then none else some ([], p, []) := by
  simp [read, hp]

/-! ### The reader's loop, one read at a time -/

theorem readLoop_of_read (hb : bytes ≠ []) (h : p.read size rest = some (bytes, q, more)) :
    p.readLoop size rest = (bytes :: (q.readLoop size more).1, (q.readLoop size more).2) := by
  rw [readLoop]
  split
  · simp_all
  · simp_all
  · rename_i b bs q' more' hr
    rw [h] at hr
    cases hr
    rfl

theorem readLoop_of_end (h : p.read size rest = some ([], q, more)) : p.readLoop size rest = ([], true, q) := by
  rw [readLoop]
  split <;> simp_all

theorem readLoop_of_wait (h : p.read size rest = none) : p.readLoop size rest = ([], false, p) := by
  rw [readLoop]
  split <;> simp_all

/-- A reader holding part of a message hands it all out, read by read,
    before it turns to the channel. -/
theorem readLoop_held (hsize : 0 < size) (p : MemoryProcess) (bytes : List UInt8) :
    p.readLoop size bytes = (chunks size bytes ++ (p.readLoop size []).1, (p.readLoop size []).2) := by
  fun_induction chunks size bytes with
  | case1 => rfl
  | case2 => omega
  | case3 b bs hne ih =>
    obtain ⟨n, rfl⟩ := Nat.exists_eq_succ_of_ne_zero hne
    rw [readLoop_of_read (by simp) (read_cons b bs), ih]
    rfl

/-- Receiving a message that is not empty is reading it as held. -/
theorem readLoop_receive {msg : List UInt8} {msgs : List (List UInt8)} (hp : p.pending = msg :: msgs)
    (hmsg : msg ≠ []) : p.readLoop size [] = { p with pending := msgs }.readLoop size msg := by
  obtain ⟨b, bs, rfl⟩ := List.exists_cons_of_ne_nil hmsg
  -- both read the same first piece of the message and keep the same rest
  have h₁ : p.read size [] = some ((b :: bs).take size, { p with pending := msgs }, (b :: bs).drop size) :=
    read_receive hp
  have h₂ : { p with pending := msgs }.read size (b :: bs) =
      some ((b :: bs).take size, { p with pending := msgs }, (b :: bs).drop size) := read_cons b bs
  cases htake : (b :: bs).take size with
  | nil =>
    rw [htake] at h₁ h₂
    rw [readLoop_of_end h₁, readLoop_of_end h₂]
  | cons c cs =>
    rw [htake] at h₁ h₂
    rw [readLoop_of_read (List.cons_ne_nil c cs) h₁, readLoop_of_read (List.cons_ne_nil c cs) h₂]

/-- An empty message ends the stream. -/
theorem readLoop_empty_message {msgs : List (List UInt8)} (hp : p.pending = [] :: msgs) :
    p.readLoop size [] = ([], true, { p with pending := msgs }) := by
  have h : p.read size [] = some ([], { p with pending := msgs }, []) := by simpa using read_receive hp
  exact readLoop_of_end h

/-- With the channel empty the reader waits while the process runs and
    finds the end of the stream once it exited. -/
theorem readLoop_drained (hp : p.pending = []) : p.readLoop size [] = ([], !p.isOpen, p) := by
  cases ho : p.isOpen with
  | true => exact readLoop_of_wait (by rw [read_drained hp, ho]; rfl)
  | false => exact readLoop_of_end (by rw [read_drained hp, ho]; rfl)

/-! ### A round of the reader -/

/-- The reader hands out the messages up to the first empty one, each in as
    many reads as it takes; the stream ends at an empty message, or once
    the process exited and the channel is empty. The channel keeps what
    follows the empty message. -/
theorem readLoop_eq (hsize : 0 < size) (p : MemoryProcess) :
    p.readLoop size [] =
      ((p.pending.takeWhile (!·.isEmpty)).flatMap (chunks size),
        !(p.pending.dropWhile (!·.isEmpty)).isEmpty || !p.isOpen,
        { p with pending := (p.pending.dropWhile (!·.isEmpty)).tail }) := by
  -- by induction on the messages in the channel, for every process that holds them
  suffices h : ∀ msgs (p : MemoryProcess), p.pending = msgs → p.readLoop size [] =
      ((msgs.takeWhile (!·.isEmpty)).flatMap (chunks size), !(msgs.dropWhile (!·.isEmpty)).isEmpty || !p.isOpen,
        { p with pending := (msgs.dropWhile (!·.isEmpty)).tail }) from h _ p rfl
  intro msgs
  induction msgs with
  | nil =>
    intro p hp
    rw [readLoop_drained hp]
    cases p
    cases hp
    rfl
  | cons msg msgs ih =>
    intro p hp
    by_cases hmsg : msg = []
    · subst hmsg
      rw [readLoop_empty_message hp]
      simp
    · rw [readLoop_receive hp hmsg, readLoop_held hsize, ih _ rfl]
      simp [hmsg, isOpen]

/-- A round over messages none of which is empty hands them all out, and
    the stream ends exactly when the process has exited. -/
theorem readLoop_of_nonempty (hsize : 0 < size) (hne : ∀ m ∈ p.pending, m ≠ []) :
    p.readLoop size [] = (p.pending.flatMap (chunks size), !p.isOpen, { p with pending := [] }) := by
  have hall : ∀ m ∈ p.pending, (!m.isEmpty) = true := fun m hm => by simpa using hne m hm
  rw [readLoop_eq hsize, List.takeWhile_eq_self_iff.mpr hall, List.dropWhile_eq_nil_iff.mpr hall]
  rfl

theorem flatten_flatMap_chunks (hsize : 0 < size) (msgs : List (List UInt8)) :
    (msgs.flatMap (chunks size)).flatten = msgs.flatten := by
  induction msgs with
  | nil => rfl
  | cons msg msgs ih => rw [List.flatMap_cons, List.flatten_append, flatten_chunks hsize, ih, List.flatten_cons]

theorem mem_flatMap_chunks {r : List UInt8} {msgs : List (List UInt8)} (hmem : r ∈ msgs.flatMap (chunks size)) :
    r ≠ [] ∧ r.length ≤ size := by
  obtain ⟨_, -, hr⟩ := List.mem_flatMap.mp hmem
  exact mem_chunks hr

/-- A round of the reader takes messages from the channel and nothing else. -/
theorem exitCode_readLoop (hsize : 0 < size) (p : MemoryProcess) :
    (p.readLoop size []).2.2.exitCode = p.exitCode := by
  rw [readLoop_eq hsize]

/-! ### Runs of a process and its reader -/

/-- What happens to a process's output: the process sends a message, exits
    or is killed, or its reader runs until it would wait. -/
inductive Event where
  | send (bytes : List UInt8)
  | exit (code : Int)
  | kill
  | read
  deriving DecidableEq, Repr

/-- The messages of a run sent before the process exits or is killed: the
    output it emits, since what it sends after that is lost. -/
def Event.sent : List Event → List (List UInt8)
  | [] => []
  | .send bytes :: es => bytes :: Event.sent es
  | .exit _ :: _ => []
  | .kill :: _ => []
  | .read :: es => Event.sent es

/-- A process and its reader, with a record of what the process emitted
    and of what the reader read. -/
structure Watch where
  /-- The process. -/
  proc : MemoryProcess
  /-- The messages the process emitted, oldest first. -/
  sent : List (List UInt8) := []
  /-- Everything the reader read, read by read. -/
  reads : List (List UInt8) := []
  /-- Whether the reader found the end of the stream; it then reads no more. -/
  ended : Bool := false

namespace Watch

/-- One event, with a reader that reads into a buffer of `size` bytes. -/
def step (size : Nat) (w : Watch) : Event → Watch
  | .send bytes =>
    { w with proc := w.proc.send bytes, sent := if w.proc.isOpen then w.sent ++ [bytes] else w.sent }
  | .exit code => { w with proc := w.proc.exit code }
  | .kill => { w with proc := w.proc.kill }
  | .read =>
    if w.ended then w
    else
      let (reads, ended, p) := w.proc.readLoop size []
      { w with proc := p, reads := w.reads ++ reads, ended := ended }

/-- A run of events. -/
def run (size : Nat) (w : Watch) (events : List Event) : Watch := events.foldl (step size) w

/-- A round of the reader, unless it found the end of the stream before. -/
theorem step_read (w : Watch) :
    w.step size .read =
      if w.ended then w
      else
        { w with
          proc := (w.proc.readLoop size []).2.2
          reads := w.reads ++ (w.proc.readLoop size []).1
          ended := (w.proc.readLoop size []).2.1 } := rfl

/-- What holds of a process and its reader while no message is empty: the
    reads followed by what waits in the channel are what the process
    emitted; each read holds bytes and fits the buffer; and once the
    stream ended, the process has exited and nothing waits. -/
structure Inv (size : Nat) (w : Watch) : Prop where
  bytes : w.reads.flatten ++ w.proc.pending.flatten = w.sent.flatten
  reads : ∀ r ∈ w.reads, r ≠ [] ∧ r.length ≤ size
  pending : ∀ m ∈ w.proc.pending, m ≠ []
  ended : w.ended = true → w.proc.isOpen = false ∧ w.proc.pending = []

theorem inv_init (p : MemoryProcess) (hp : p.pending = []) : Inv size { proc := p } where
  bytes := by simp [hp]
  reads := by simp
  pending := by simp [hp]
  ended := by simp

variable {w : Watch}

theorem isOpen_send (p : MemoryProcess) (bytes : List UInt8) : (p.send bytes).isOpen = p.isOpen := by
  unfold send
  split <;> rfl

theorem Inv.send (hi : Inv size w) {bytes : List UInt8} (hb : bytes ≠ []) : Inv size (w.step size (.send bytes)) := by
  cases ho : w.proc.isOpen with
  | false =>
    have hp : w.proc.send bytes = w.proc := by simp [MemoryProcess.send, ho]
    simpa [step, ho, hp] using hi
  | true =>
    have hp : w.proc.send bytes = { w.proc with pending := w.proc.pending ++ [bytes] } := by
      simp [MemoryProcess.send, ho]
    refine ⟨?_, hi.reads, ?_, ?_⟩ <;> simp only [step, ho, hp, if_true]
    · rw [List.flatten_append, ← List.append_assoc, hi.bytes, List.flatten_append]
    · intro m hm
      rcases List.mem_append.mp hm with hm | hm
      · exact hi.pending m hm
      · rw [List.mem_singleton.mp hm]
        exact hb
    · intro he
      simp [(hi.ended he).1] at ho

theorem Inv.exit (hi : Inv size w) (code : Int) : Inv size (w.step size (.exit code)) where
  bytes := hi.bytes
  reads := hi.reads
  pending := hi.pending
  ended := fun he => ⟨by simp [step, MemoryProcess.exit, isOpen], (hi.ended he).2⟩

theorem Inv.read (hsize : 0 < size) (hi : Inv size w) : Inv size (w.step size .read) := by
  rw [step_read]
  cases he : w.ended with
  | true => simpa using hi
  | false =>
    simp only [readLoop_of_nonempty hsize hi.pending, Bool.false_eq_true, if_false]
    refine ⟨?_, ?_, by simp, fun hend => ⟨by simpa [isOpen] using hend, rfl⟩⟩
    · rw [List.flatten_append, flatten_flatMap_chunks hsize, List.flatten_nil, List.append_nil, hi.bytes]
    · intro r hr
      rcases List.mem_append.mp hr with hr | hr
      · exact hi.reads r hr
      · exact mem_flatMap_chunks hr

/-- Every event keeps the invariant, as long as no message is empty. -/
theorem Inv.step (hsize : 0 < size) (hi : Inv size w) (e : Event) (he : ∀ bytes, e = .send bytes → bytes ≠ []) :
    Inv size (w.step size e) := by
  cases e with
  | send bytes => exact hi.send (he bytes rfl)
  | exit code => exact hi.exit code
  | kill => exact hi.exit killedExitCode
  | read => exact hi.read hsize

/-- Every run in which no message is empty keeps the invariant. -/
theorem Inv.run (hsize : 0 < size) (hi : Inv size w) (events : List Event)
    (hne : ∀ bytes, Event.send bytes ∈ events → bytes ≠ []) : Inv size (w.run size events) := by
  induction events generalizing w with
  | nil => exact hi
  | cons e es ih =>
    exact ih (hi.step hsize e fun bytes he => hne bytes (he ▸ List.mem_cons_self))
      fun bytes hb => hne bytes (List.mem_cons_of_mem e hb)

/-- Once the stream ended, everything the process emitted was read. -/
theorem Inv.reads_of_ended (hi : Inv size w) (he : w.ended = true) : w.reads.flatten = w.sent.flatten := by
  rw [← hi.bytes, (hi.ended he).2, List.flatten_nil, List.append_nil]

/-- Once the process exited, the next round of the reader finds the end of
    the stream. -/
theorem Inv.ended_read (hsize : 0 < size) (hi : Inv size w) (hx : w.proc.isOpen = false) :
    (w.step size .read).ended = true := by
  rw [step_read]
  cases he : w.ended with
  | true => simp [he]
  | false => simp [readLoop_of_nonempty hsize hi.pending, hx]

theorem sent_read (w : Watch) : (w.step size .read).sent = w.sent := by
  rw [step_read]
  split <;> rfl

theorem isOpen_read (hsize : 0 < size) (w : Watch) : (w.step size .read).proc.isOpen = w.proc.isOpen := by
  rw [step_read]
  split
  · rfl
  · simp only [isOpen, exitCode_readLoop hsize]

/-- The record of what the process emitted holds the messages it sent
    while it ran. -/
theorem sent_run (hsize : 0 < size) (w : Watch) (events : List Event) :
    (w.run size events).sent = if w.proc.isOpen then w.sent ++ Event.sent events else w.sent := by
  induction events generalizing w with
  | nil => simp [run, Event.sent]
  | cons e es ih =>
    rw [run, List.foldl_cons, ← run, ih]
    cases e with
    | send bytes => cases ho : w.proc.isOpen <;> simp [step, ho, isOpen_send, Event.sent]
    | exit code => cases ho : w.proc.isOpen <;> simp [step, Event.sent, MemoryProcess.exit, isOpen]
    | kill => cases ho : w.proc.isOpen <;> simp [step, Event.sent, kill, MemoryProcess.exit, isOpen]
    | read => rw [isOpen_read hsize, sent_read, Event.sent]

end Watch

/-- Over any run from a fresh process in which no message is empty, with a
    buffer of any positive size: the reads, followed by what waits in the
    channel, are the bytes sent before the exit, in order; each read holds
    bytes and fits the buffer; the stream ends only once the process has
    exited and all it sent was read; and once it has exited, the next round
    of the reader finds the end of the stream with all of it read. -/
theorem read_until_exit (hsize : 0 < size) (events : List Event)
    (hne : ∀ bytes, Event.send bytes ∈ events → bytes ≠ []) :
    (Watch.run size { proc := {} } events).reads.flatten ++
        (Watch.run size { proc := {} } events).proc.pending.flatten = (Event.sent events).flatten ∧
      (∀ r ∈ (Watch.run size { proc := {} } events).reads, r ≠ [] ∧ r.length ≤ size) ∧
      ((Watch.run size { proc := {} } events).ended = true →
        (Watch.run size { proc := {} } events).proc.exitCode.isSome ∧
          (Watch.run size { proc := {} } events).reads.flatten = (Event.sent events).flatten) ∧
      ((Watch.run size { proc := {} } events).proc.exitCode.isSome →
        ((Watch.run size { proc := {} } events).step size .read).ended = true ∧
          ((Watch.run size { proc := {} } events).step size .read).reads.flatten = (Event.sent events).flatten) := by
  have hi := (Watch.inv_init {} rfl : Watch.Inv size { proc := {} }).run hsize events hne
  have hsent : (Watch.run size { proc := {} } events).sent = Event.sent events := by
    rw [Watch.sent_run hsize]
    rfl
  refine ⟨hsent ▸ hi.bytes, hi.reads, fun he => ⟨?_, hsent ▸ hi.reads_of_ended he⟩, fun hx => ?_⟩
  · simpa [isOpen] using (hi.ended he).1
  · have hclosed : (Watch.run size { proc := {} } events).proc.isOpen = false := by simpa [isOpen] using hx
    have hend := hi.ended_read hsize hclosed
    exact ⟨hend, by rw [(hi.read hsize).reads_of_ended hend, Watch.sent_read, hsent]⟩

end MemoryProcess

/-! ### The reader in the host -/

namespace Host

variable {h h' h'' : Host T} {s c : Nat} {p : MemoryProcess} {pump : Pump}

/-- A change of the host that keeps the lifecycle state of every session. -/
def KeepsStates (h h' : Host T) : Prop := ∀ t, h'.stateOf t = h.stateOf t

theorem KeepsStates.refl (h : Host T) : KeepsStates h h := fun _ => rfl

theorem KeepsStates.trans (h₁ : KeepsStates h h') (h₂ : KeepsStates h' h'') : KeepsStates h h'' :=
  fun t => (h₂ t).trans (h₁ t)

theorem keepsStates_of_sessions (hs : h'.sessions = h.sessions) : KeepsStates h h' := fun t => by
  simp [stateOf, session?, hs]

theorem keepsStates_modifySession {f : Session → Session} (hf : ∀ y, (f y).state = y.state) :
    KeepsStates h (h.modifySession s f) := by
  intro t
  simp only [stateOf, session?_modifySession]
  by_cases hst : s = t
  · cases h.session? t <;> simp [hst, hf]
  · simp [hst]

theorem keepsStates_emit (text : String) (kind : OutputKind) : KeepsStates h (h.emit s text kind) := by
  unfold emit
  split
  · exact .refl h
  · split
    · exact keepsStates_of_sessions rfl
    · exact keepsStates_modifySession fun _ => rfl

theorem keepsStates_deliver {text : String} (hd : h.deliver s text = some h') : KeepsStates h h' := by
  cases hx : h.session? s with
  | none => simp [deliver, hx] at hd
  | some x =>
    by_cases hdis : x.state = .disposed
    · rw [deliver_disposed hx hdis] at hd
      cases hd
    · rw [deliver_live hx hdis] at hd
      cases hd
      have hprompt : KeepsStates h (h.modifySession s fun y => { y with prompt := (x.prompt.process text).1 }) :=
        keepsStates_modifySession fun _ => rfl
      split
      · exact hprompt
      · exact hprompt.trans (keepsStates_emit _ _)

theorem keepsStates_deliverNonEmpty {text : String} (hd : h.deliverNonEmpty s text = some h') :
    KeepsStates h h' := by
  unfold deliverNonEmpty at hd
  split at hd
  · cases hd
    exact .refl h
  · exact keepsStates_deliver hd

/-- A session not disposed takes whatever text it is handed. -/
theorem deliverNonEmpty_live (hs : h.stateOf s ≠ .disposed) (text : String) :
    ∃ h', h.deliverNonEmpty s text = some h' := by
  cases hx : h.session? s with
  | none => simp [stateOf, hx] at hs
  | some x =>
    rw [stateOf_eq hx] at hs
    unfold deliverNonEmpty
    split
    · exact ⟨h, rfl⟩
    · exact ⟨_, deliver_live hx hs⟩

/-- A session takes no text only once it is disposed. -/
theorem stateOf_of_deliverNonEmpty {text : String} (hd : h.deliverNonEmpty s text = none) :
    h.stateOf s = .disposed := by
  by_contra hlive
  obtain ⟨h', hh⟩ := deliverNonEmpty_live hlive text
  rw [hd] at hh
  cases hh

/-- Once the session took no more text, a fold hands nothing on. -/
theorem foldl_none {α β : Type} {f : Option (Host T) × α → β → Option (Host T) × α}
    (hnone : ∀ a b, (f (none, a) b).1 = none) (l : List β) (a : α) : (l.foldl f (none, a)).1 = none := by
  induction l generalizing a with
  | nil => rfl
  | cons b l ih =>
    rcases hf : f (none, a) b with ⟨o, a'⟩
    have ho : o = none := by simpa [hf] using hnone a b
    rw [List.foldl_cons, hf, ho]
    exact ih a'

/-- Handing the reads to a session one by one, until it takes no more:
    every session keeps its state, and a session not disposed takes them
    all. -/
theorem foldl_deliver {α β : Type} {f : Option (Host T) × α → β → Option (Host T) × α} {l : List β} {h₀ : Host T}
    {a : α} {r : Option (Host T) × α} (hr : l.foldl f (some h₀, a) = r)
    (hnone : ∀ a b, (f (none, a) b).1 = none)
    (hsome : ∀ h₀ a b, ∃ text, (f (some h₀, a) b).1 = h₀.deliverNonEmpty s text) :
    (∀ h', r.1 = some h' → KeepsStates h₀ h') ∧ (h₀.stateOf s ≠ .disposed → ∃ h', r.1 = some h') := by
  subst hr
  induction l generalizing h₀ a with
  | nil => exact ⟨fun h' hh => Option.some.inj hh ▸ .refl h₀, fun _ => ⟨h₀, rfl⟩⟩
  | cons b l ih =>
    obtain ⟨text, ht⟩ := hsome h₀ a b
    rcases hf : f (some h₀, a) b with ⟨o, a'⟩
    rw [hf] at ht
    simp only at ht
    rw [List.foldl_cons, hf]
    cases hd : h₀.deliverNonEmpty s text with
    | none =>
      rw [ht, hd, foldl_none hnone]
      exact ⟨fun _ hh => (by cases hh), fun hlive => absurd (stateOf_of_deliverNonEmpty hd) hlive⟩
    | some h₁ =>
      have hk := keepsStates_deliverNonEmpty hd
      rw [ht, hd]
      exact ⟨fun h' hh => hk.trans ((@ih h₁ a').1 h' hh),
        fun hlive => (@ih h₁ a').2 (by rw [hk s]; exact hlive)⟩

theorem keepsStates_takeOutput (c : Nat) : KeepsStates h (h.takeOutput c).1 := by
  unfold takeOutput
  split <;> exact keepsStates_of_sessions rfl

/-- The reader of an in-memory process takes a round of reads into buffers
    of `readSize` bytes. -/
theorem takeOutput_memory (hc : h.child? c = some (.memory p)) :
    h.takeOutput c = (h.modifyChild c fun _ => .memory p.drain.2.2, p.drain.1, p.drain.2.1) := by
  simp only [takeOutput, hc]

/-- A reader changes no session's state, except that once it finds the end
    of its process's output it ends its session; it finds the end and does
    not end the session only when the session is disposed. -/
theorem runPump_cases (pump : Pump) :
    (KeepsStates h (h.runPump pump).1 ∧
        (pump.stopped = false → (h.takeOutput pump.process).2.2 = true → h.stateOf pump.session = .disposed)) ∨
      (pump.stopped = false ∧ (h.takeOutput pump.process).2.2 = true ∧
        ∃ h' code, KeepsStates h h' ∧ (h.runPump pump).1 = h'.outputClosed pump.session code) := by
  unfold runPump
  split
  · rename_i hstop
    exact .inl ⟨.refl h, fun hs => by simp [hstop] at hs⟩
  · rename_i hstop
    have ht := keepsStates_takeOutput (h := h) pump.process
    rcases htake : h.takeOutput pump.process with ⟨h₁, reads, closed⟩
    rw [htake] at ht
    dsimp only at ht ⊢
    split
    · -- the session took no more text: it is disposed
      rename_i dec hfed
      have hdis : h₁.stateOf pump.session = .disposed := by
        by_contra hlive
        obtain ⟨h', hh⟩ := (foldl_deliver hfed (fun _ _ => rfl) (fun _ _ _ => ⟨_, rfl⟩)).2 hlive
        cases hh
      exact .inl ⟨ht, fun _ _ => (ht pump.session).symm.trans hdis⟩
    · rename_i h₂ dec hfed
      have hk₂ : KeepsStates h h₂ := ht.trans ((foldl_deliver hfed (fun _ _ => rfl) (fun _ _ _ => ⟨_, rfl⟩)).1 h₂ rfl)
      split
      · rename_i hopen
        exact .inl ⟨hk₂, fun _ hc => by simp [hc] at hopen⟩
      · rename_i hclosed
        split
        · rename_i hd
          exact .inl ⟨hk₂, fun _ _ => (hk₂ pump.session).symm.trans (stateOf_of_deliverNonEmpty hd)⟩
        · rename_i h₃ hd
          exact .inr ⟨by simpa using hstop, by simpa using hclosed, h₃, _,
            hk₂.trans (keepsStates_deliverNonEmpty hd), rfl⟩

/-- Recording the end of the output stops the session if it runs, and
    changes no other session's state. -/
theorem stateOf_outputEnded (h : Host T) (s : Nat) (code : Option Int) (t : Nat) :
    (h.modifySession s (·.outputEnded code)).stateOf t =
      if s = t ∧ h.stateOf t = .running then .terminated else h.stateOf t := by
  by_cases hst : s = t
  · subst hst
    cases hx : h.session? s with
    | none => simp [stateOf, hx]
    | some x =>
      have hy : (h.modifySession s (·.outputEnded code)).session? s = some (x.outputEnded code) := by
        rw [session?_modifySession_self, hx]
        rfl
      rw [stateOf_eq hy, stateOf_eq hx]
      by_cases hr : x.state = .running
      · simp [hr, Session.outputEnded_running hr, Session.enter]
      · simp [hr, Session.outputEnded_not_running hr]
  · have hy : (h.modifySession s (·.outputEnded code)).session? t = h.session? t := by
      rw [session?_modifySession, if_neg hst]
    simp [stateOf, hy, hst]

/-- The end of a session's output ends it if it runs, and changes no other
    session's state. -/
theorem stateOf_outputClosed (h : Host T) (s : Nat) (code : Option Int) (t : Nat) :
    (h.outputClosed s code).stateOf t =
      if s = t ∧ h.stateOf t = .running then .terminated else h.stateOf t := by
  -- a session that is missing or disposed is left as it is
  cases hx : h.session? s with
  | none =>
    have hgone : h.stateOf s = .disposed := by simp [stateOf, hx]
    rw [show h.outputClosed s code = h by simp [outputClosed, hx], if_neg]
    rintro ⟨rfl, hr⟩
    rw [hgone] at hr
    cases hr
  | some x =>
    by_cases hd : x.state = .disposed
    · rw [outputClosed_disposed hx hd, if_neg]
      rintro ⟨rfl, hr⟩
      rw [stateOf_eq hx, hd] at hr
      cases hr
    · rw [outputClosed_live hx hd]
      split
      · rw [keepsStates_emit _ _ t, stateOf_outputEnded]
      · exact stateOf_outputEnded h s code t

/-- A reader that finds the end of its process's output ends the running
    session it reads for. -/
theorem runPump_ended (hrun : h.stateOf pump.session = .running) (hstop : pump.stopped = false)
    (hclosed : (h.takeOutput pump.process).2.2 = true) :
    (h.runPump pump).1.stateOf pump.session = .terminated := by
  rcases runPump_cases (h := h) pump with ⟨-, hend⟩ | ⟨-, -, h', code, hk, hpump⟩
  · have := hend hstop hclosed
    rw [hrun] at this
    cases this
  · rw [hpump, stateOf_outputClosed, if_pos ⟨rfl, (hk _).trans hrun⟩]

/-- The reader of an in-memory process none of whose messages is empty ends
    a session it reads for, if it runs, exactly when the process has
    exited. -/
theorem runPump_memory (hc : h.child? pump.process = some (.memory p)) (hne : ∀ m ∈ p.pending, m ≠ [])
    (hrun : h.stateOf pump.session = .running) (hstop : pump.stopped = false) :
    (h.runPump pump).1.stateOf pump.session = if p.exitCode.isSome then .terminated else .running := by
  have hclosed : (h.takeOutput pump.process).2.2 = p.exitCode.isSome := by
    rw [takeOutput_memory hc, MemoryProcess.drain, MemoryProcess.readLoop_of_nonempty (by decide) hne]
    simp [MemoryProcess.isOpen]
  cases hx : p.exitCode.isSome with
  | true => exact runPump_ended hrun hstop (hclosed.trans hx)
  | false =>
    -- the reader found no end, so it kept every state
    rcases runPump_cases (h := h) pump with ⟨hk, -⟩ | ⟨-, hend, -⟩
    · rw [hk, hrun]
      rfl
    · rw [hclosed, hx] at hend
      cases hend

end Host

/-- Output none of whose messages is empty is read in full, in order, and
    ends only with the process. Over any run of a fresh process and its
    reader, with a buffer of any positive size: the reads followed by what
    waits in the channel are the bytes sent before the exit; each read
    holds bytes and fits the buffer; the stream ends only once the process
    has exited and all it sent was read; and once it has exited, the next
    round of the reader ends the stream with all of it read. In the host,
    the reader of such a process ends the running session it reads for
    exactly when the process has exited. -/
theorem nonempty_output_read_until_exit {size : Nat} {events : List MemoryProcess.Event} {h : Host T}
    {pump : Pump} {p : MemoryProcess} (hsize : 0 < size)
    (hne : ∀ bytes, MemoryProcess.Event.send bytes ∈ events → bytes ≠ [])
    (hc : h.child? pump.process = some (.memory p)) (hpend : ∀ m ∈ p.pending, m ≠ [])
    (hrun : h.stateOf pump.session = .running) (hstop : pump.stopped = false) :
    let w := MemoryProcess.Watch.run size { proc := {} } events
    (w.reads.flatten ++ w.proc.pending.flatten = (MemoryProcess.Event.sent events).flatten ∧
      (∀ r ∈ w.reads, r ≠ [] ∧ r.length ≤ size) ∧
      (w.ended = true → w.proc.exitCode.isSome ∧ w.reads.flatten = (MemoryProcess.Event.sent events).flatten) ∧
      (w.proc.exitCode.isSome →
        (w.step size .read).ended = true ∧
          (w.step size .read).reads.flatten = (MemoryProcess.Event.sent events).flatten)) ∧
    (h.runPump pump).1.stateOf pump.session = if p.exitCode.isSome then .terminated else .running :=
  ⟨MemoryProcess.read_until_exit hsize events hne, Host.runPump_memory hc hpend hrun hstop⟩

/-- The reader of the console below. -/
def consoleReader : Pump := { session := 0, process := 0, decoder := OutputDecoder.fresh true }

/-- A console of `evcxr` that runs process 0, whose output its reader reads. -/
def consoleOf (proc : MemoryProcess) : Host Empty :=
  { sessions := #[{ Session.create "Rust REPL" (LaunchSpec.ofProgram "evcxr") {} with
      state := .running, published := .running, writer := some 0, control := some 0 }]
    children := #[.memory proc]
    pumps := [consoleReader] }

/-- A process that greets with `hi` and exits: its reader reads `hi` and
    then the end of the stream, and its console ends. -/
theorem greeting_read_then_console_ends :
    let w := MemoryProcess.Watch.run readSize { proc := {} } [.send [0x68, 0x69], .read, .exit 0, .read]
    (w.reads.flatten ++ w.proc.pending.flatten =
        (MemoryProcess.Event.sent [.send [0x68, 0x69], .read, .exit 0, .read]).flatten ∧
      (∀ r ∈ w.reads, r ≠ [] ∧ r.length ≤ readSize) ∧
      (w.ended = true → w.proc.exitCode.isSome ∧
        w.reads.flatten = (MemoryProcess.Event.sent [.send [0x68, 0x69], .read, .exit 0, .read]).flatten) ∧
      (w.proc.exitCode.isSome →
        (w.step readSize .read).ended = true ∧
          (w.step readSize .read).reads.flatten =
            (MemoryProcess.Event.sent [.send [0x68, 0x69], .read, .exit 0, .read]).flatten)) ∧
    ((consoleOf ((({} : MemoryProcess).send [0x68, 0x69]).exit 0)).runPump consoleReader).1.stateOf 0 =
      if ((({} : MemoryProcess).send [0x68, 0x69]).exit 0).exitCode.isSome then .terminated else .running :=
  nonempty_output_read_until_exit (by decide) (by simp) rfl (by decide) rfl rfl

/-- An empty message ends the output early. A process sends an empty
    message and then `x`, and does not exit: its reader finds the end of the
    stream at once and never reads `x`, and its running console ends while
    the process runs. -/
theorem empty_message_ends_output :
    let w := MemoryProcess.Watch.run readSize { proc := {} } [.send [], .send [0x78], .read]
    MemoryProcess.Event.sent [.send [], .send [0x78], .read] = [[], [0x78]] ∧
      w.ended = true ∧ w.proc.exitCode = none ∧ w.reads = [] ∧ w.proc.pending = [[0x78]] ∧
      (consoleOf (((({} : MemoryProcess).send []).send [0x78]))).stateOf 0 = .running ∧
      (consoleOf (((({} : MemoryProcess).send []).send [0x78]))).childExit? 0 = none ∧
      ((consoleOf (((({} : MemoryProcess).send []).send [0x78]))).runPump consoleReader).1.stateOf 0 =
        .terminated := by
  have hp : ((({} : MemoryProcess).send []).send [0x78]).pending = [] :: [[0x78]] := rfl
  have hread : ((({} : MemoryProcess).send []).send [0x78]).readLoop readSize [] =
      ([], true, { (({} : MemoryProcess).send []).send [0x78] with pending := [[0x78]] }) :=
    MemoryProcess.readLoop_empty_message hp
  -- the two sends reach the channel; the round of the reader meets the empty message first
  have hw : MemoryProcess.Watch.run readSize { proc := {} } [.send [], .send [0x78], .read] =
      { proc := { (({} : MemoryProcess).send []).send [0x78] with pending := [[0x78]] }
        sent := [[], [0x78]]
        ended := true } := by
    change (({ proc := (({} : MemoryProcess).send []).send [0x78], sent := [[], [0x78]] } :
      MemoryProcess.Watch).step readSize .read) = _
    rw [MemoryProcess.Watch.step_read]
    dsimp only
    rw [hread]
    rfl
  have hclosed : ((consoleOf ((({} : MemoryProcess).send []).send [0x78])).takeOutput consoleReader.process).2.2 =
      true := by
    rw [Host.takeOutput_memory rfl, MemoryProcess.drain, hread]
  refine ⟨rfl, ?_, ?_, ?_, ?_, rfl, rfl, Host.runPump_ended rfl rfl hclosed⟩ <;> rw [hw]
  -- the process never exited
  rfl

end ReplHost
