import ReplHost.Output.Chunk

/-! # Output retained while no sink is attached

  While no sink shows a console's output, the session keeps it in an
  `OutputBuffer`: a first-in first-out list of chunks whose total size in
  bytes stays within a limit.

  - `push` admits a chunk. Empty text, or any text when the limit is 0, is
    counted as dropped and not kept. A text longer than the limit keeps only
    its tail: the longest suffix, starting at a character boundary, that fits.
    After admitting, the oldest chunks are evicted until the total fits.
  - `drain` hands over all chunks, oldest first, and resets the drop count.
  - `clear` discards all chunks but keeps the drop count.

  `len` counts the bytes kept: a push adds the bytes it admits and takes
  off those it evicts, and a drain or a clear resets it. Eviction reads
  this count, not the chunks. `dropped` counts the bytes refused or evicted
  since the last drain.
-/

namespace ReplHost

/-- The default limit: 64 KiB. -/
def defaultBufferLimit : Nat := 64 * 1024

/-- A byte-bounded FIFO of output chunks. -/
structure OutputBuffer where
  /-- The most bytes the buffer keeps. -/
  limit : Nat := defaultBufferLimit
  /-- The kept chunks, oldest first. -/
  chunks : List Chunk := []
  /-- The bytes kept, as counted by the operations. -/
  len : Nat := 0
  /-- Bytes refused or evicted since the last drain. -/
  dropped : Nat := 0
  deriving DecidableEq, Repr

namespace OutputBuffer

/-- An empty buffer with the given limit. -/
def withLimit (limit : Nat) : OutputBuffer := { limit := limit }

/-- Whether nothing is kept. -/
def isEmpty (b : OutputBuffer) : Bool := b.chunks.isEmpty

/-- Drops leading characters until at least `need` bytes are gone: returns
    the bytes dropped and the characters left. -/
def dropBytes (need : Nat) : List Char → Nat × List Char
  | [] => (0, [])
  | c :: rest =>
    if need = 0 then (0, c :: rest)
    else
      let w := Utf8.charWidth c
      let (d, left) := dropBytes (need - w) rest
      (w + d, left)

/-- The part of a text a buffer with this limit admits: the whole text when
    it fits, else its longest fitting suffix that starts at a character
    boundary. Returns the bytes cut off and the admitted text. -/
def keepTail (limit : Nat) (text : String) : Nat × String :=
  let size := Utf8.byteLength text
  if size ≤ limit then (0, text)
  else
    let (cut, rest) := dropBytes (size - limit) text.toList
    (cut, String.ofList rest)

/-- Evicts the oldest chunks while the count of bytes kept, `len`, exceeds
    the limit, taking each evicted chunk's bytes off the count: returns the
    bytes evicted and the chunks kept. -/
def evict (limit len : Nat) : List Chunk → Nat × List Chunk
  | [] => (0, [])
  | c :: cs =>
    if len ≤ limit then (0, c :: cs)
    else
      let (d, kept) := evict limit (len - c.bytes) cs
      (c.bytes + d, kept)

/-- Admits a chunk of output. -/
def push (b : OutputBuffer) (text : String) (kind : OutputKind) : OutputBuffer :=
  if text.isEmpty || b.limit == 0 then
    { b with dropped := b.dropped + Utf8.byteLength text }
  else
    let (cut, kept) := keepTail b.limit text
    let len := b.len + Utf8.byteLength kept
    let (evicted, chunks) := evict b.limit len (b.chunks ++ [⟨kept, kind⟩])
    { b with chunks := chunks, len := len - evicted, dropped := b.dropped + cut + evicted }

/-- Hands over all chunks, oldest first, and resets the drop count. -/
def drain (b : OutputBuffer) : List Chunk × OutputBuffer :=
  (b.chunks, { b with chunks := [], len := 0, dropped := 0 })

/-- Discards all chunks; the drop count stays. -/
def clear (b : OutputBuffer) : OutputBuffer := { b with chunks := [], len := 0 }

@[simp] theorem len_clear (b : OutputBuffer) : b.clear.len = 0 := rfl

@[simp] theorem drain_fst (b : OutputBuffer) : b.drain.1 = b.chunks := rfl

@[simp] theorem len_drain (b : OutputBuffer) : b.drain.2.len = 0 := rfl

end OutputBuffer

end ReplHost
