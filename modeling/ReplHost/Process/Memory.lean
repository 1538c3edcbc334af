import ReplHost.Text.Utf8

/-! # In-memory processes

  A `MemoryProcess` stands in for a console program: its output is whatever
  is sent to it, its input is recorded, and complete input lines are handed
  to whoever answers them. Output sent after the process exited is lost; the
  output stream closes when it exits. Killing a process that has not exited
  gives it the exit code 137.

  Each message sent goes down a channel to the output's reader. The reader
  receives one message when it has nothing left of the last, and hands it
  out in reads into a buffer of a given size: a message larger than the
  buffer arrives as several reads. A read of no bytes is the end of the
  stream. The reader returns one when the channel is empty and the process
  has exited, and also when the message it receives is empty.
-/

namespace ReplHost

/-- The exit code of a killed process. -/
def killedExitCode : Int := 137

/-- The most bytes one read returns. -/
def readSize : Nat := 4096

/-- A process driven by its caller. -/
structure MemoryProcess where
  /-- The messages sent and not received yet, oldest first. -/
  pending : List (List UInt8) := []
  /-- Everything written to the process. -/
  input : List UInt8 := []
  /-- The input line not finished yet. -/
  line : List UInt8 := []
  /-- The exit code, once exited. -/
  exitCode : Option Int := none
  deriving DecidableEq, Repr

namespace MemoryProcess

/-- The output stream is open until the process exits. -/
def isOpen (p : MemoryProcess) : Bool := p.exitCode.isNone

/-- Emits output; nothing happens once the process has exited. -/
def send (p : MemoryProcess) (bytes : List UInt8) : MemoryProcess :=
  if p.isOpen then { p with pending := p.pending ++ [bytes] } else p

/-- Ends the process with `code` (the first code stays) and closes its output. -/
def exit (p : MemoryProcess) (code : Int) : MemoryProcess :=
  { p with exitCode := p.exitCode.or (some code) }

/-- Kills the process. -/
def kill (p : MemoryProcess) : MemoryProcess := p.exit killedExitCode

/-- Splits input into complete lines and the unfinished rest. -/
def splitLines (acc : List UInt8) : List UInt8 → List (List UInt8) × List UInt8
  | [] => ([], acc)
  | b :: bs =>
    if b = 0x0A then
      let (lines, rest) := splitLines [] bs
      (acc :: lines, rest)
    else splitLines (acc ++ [b]) bs

/-- Writes input: it is recorded, and the lines it completes are returned,
    decoded lossily. -/
def write (p : MemoryProcess) (bytes : List UInt8) : MemoryProcess × List String :=
  let (lines, rest) := splitLines p.line bytes
  ({ p with input := p.input ++ bytes, line := rest }, lines.map Utf8.decodeLossyString)

/-- Cuts bytes into reads of at most `readSize` bytes, as a terminal's
    output is read. -/
def reads (bytes : List UInt8) : (fuel : Nat) → List (List UInt8)
  | 0 => []
  | fuel + 1 =>
    if bytes.length ≤ readSize then [bytes]
    else bytes.take readSize :: reads (bytes.drop readSize) fuel

/-! ### The reader of the output -/

/-- One read of the output into a buffer of `size` bytes, by a reader that
    holds `rest`, what is left of the message it received last. With
    nothing left it receives the next message; with none sent it waits
    (`none`) while the process runs, and finds the end of the stream once
    the process exited. It hands out as much of what it holds as fits. -/
def read (size : Nat) (p : MemoryProcess) : List UInt8 → Option (List UInt8 × MemoryProcess × List UInt8)
  | [] =>
    match p.pending with
    | [] => if p.isOpen then none else some ([], p, [])
    | msg :: more => some (msg.take size, { p with pending := more }, msg.drop size)
  | b :: bs => some ((b :: bs).take size, p, (b :: bs).drop size)

/-- What a reader holding `rest` has still to read: the bytes, and one for
    each message. -/
def unread (p : MemoryProcess) (rest : List UInt8) : Nat :=
  rest.length + p.pending.foldr (fun msg n => msg.length + 1 + n) 0

/-- A read that hands out bytes leaves less to read. -/
theorem unread_lt_of_read {size : Nat} {p q : MemoryProcess} {rest more : List UInt8} {b : UInt8}
    {bs : List UInt8} (h : p.read size rest = some (b :: bs, q, more)) : q.unread more < p.unread rest := by
  cases rest with
  | nil =>
    cases hp : p.pending with
    | nil =>
      simp only [read, hp] at h
      split at h <;> simp at h
    | cons msg msgs =>
      simp only [read, hp, Option.some.injEq, Prod.mk.injEq] at h
      obtain ⟨-, rfl, rfl⟩ := h
      simp only [unread, hp, List.length_nil, List.foldr_cons, List.length_drop]
      omega
  | cons c cs =>
    simp only [read, Option.some.injEq, Prod.mk.injEq] at h
    obtain ⟨htake, rfl, rfl⟩ := h
    -- a read of no room hands out nothing
    have hsize : size ≠ 0 := by
      rintro rfl
      simp at htake
    simp only [unread, List.length_drop, List.length_cons]
    omega

/-- The reader's loop: it reads until a read would wait, or reads nothing
    and so finds the end of the stream. It returns the reads, whether the
    stream ended, and the process after. -/
def readLoop (size : Nat) (p : MemoryProcess) (rest : List UInt8) :
    List (List UInt8) × Bool × MemoryProcess :=
  match _hr : p.read size rest with
  | none => ([], false, p)
  | some ([], q, _) => ([], true, q)
  | some (b :: bs, q, more) =>
    let (reads, ended, q') := readLoop size q more
    ((b :: bs) :: reads, ended, q')
termination_by p.unread rest
decreasing_by exact unread_lt_of_read ‹_›

/-- What the reader finds on a process each time it runs, reading into
    buffers of `readSize` bytes: the reads, and whether the stream ended.
    It waits only with nothing left of a message, so each time it starts
    with nothing left. -/
def drain (p : MemoryProcess) : List (List UInt8) × Bool × MemoryProcess :=
  p.readLoop readSize []

end MemoryProcess

end ReplHost
