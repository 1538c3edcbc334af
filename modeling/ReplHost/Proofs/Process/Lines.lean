import ReplHost.Process.Memory

/-! # Input lines of an in-memory process

  Writing to an in-memory process records the bytes and hands on the lines
  they complete, each read lossily; the bytes after the last line feed wait
  in the process as its unfinished line.

  The line splitter keeps the unfinished line as an accumulator. Splitting
  `xs ++ ys` is splitting `xs` and then `ys` from the line `xs` left
  unfinished (`splitLines_append`), so two writes do what one write of both
  does (`write_append`), and any run of writes does what one write of the
  whole stream does (`writeAll_eq_write`). What one write hands on is the
  stream cut at its line feeds (`SplitsInto`, `splitLines_splitsInto`):
  one line per line feed, in order, and the rest after the last one.

  Main statement: `written_lines`.
-/

namespace ReplHost

/-- `bytes` is the lines `lines`, each ended by a line feed, and then the
    unfinished `rest`; no line feed stands inside any of them. -/
structure SplitsInto (bytes : List UInt8) (lines : List (List UInt8)) (rest : List UInt8) : Prop where
  /-- The lines and the rest make up the bytes. -/
  eq : bytes = (lines.map (· ++ [0x0A])).flatten ++ rest
  /-- Every line feed ends a line. -/
  lines_free : ∀ l ∈ lines, 0x0A ∉ l
  /-- The rest holds no line feed. -/
  rest_free : 0x0A ∉ rest

/-- Cut at its line feeds, a stream has one line per line feed. -/
theorem SplitsInto.length_eq_count {bytes rest : List UInt8} {lines : List (List UInt8)}
    (h : SplitsInto bytes lines rest) : lines.length = bytes.count 0x0A := by
  obtain ⟨rfl, hlines, hrest⟩ := h
  induction lines with
  | nil => simp [List.count_eq_zero.mpr hrest]
  | cons l ls ih =>
    have hl : l.count 0x0A = 0 := List.count_eq_zero.mpr (hlines l List.mem_cons_self)
    have hls := ih fun m hm => hlines m (List.mem_cons_of_mem _ hm)
    simp only [List.map_cons, List.flatten_cons, List.append_assoc, List.count_append, hl,
      List.count_singleton_self, List.length_cons] at hls ⊢
    omega

namespace MemoryProcess

/-- Writes chunks one call after another, collecting the lines each call
    hands on. -/
def writeAll (p : MemoryProcess) : List (List UInt8) → MemoryProcess × List String
  | [] => (p, [])
  | c :: cs =>
    let (q, ls) := p.write c
    let (r, ms) := q.writeAll cs
    (r, ls ++ ms)

/-- A line feed ends the line so far, and the rest is split from scratch. -/
theorem splitLines_lf (acc bs : List UInt8) :
    splitLines acc (0x0A :: bs) = (acc :: (splitLines [] bs).1, (splitLines [] bs).2) := by
  simp [splitLines]

/-- Any other byte joins the unfinished line. -/
theorem splitLines_other (acc : List UInt8) {b : UInt8} (hb : b ≠ 0x0A) (bs : List UInt8) :
    splitLines acc (b :: bs) = splitLines (acc ++ [b]) bs := by
  simp [splitLines, hb]

/-- Splitting two parts is splitting the first, then the second from the
    line the first left unfinished. -/
theorem splitLines_append (acc xs ys : List UInt8) :
    splitLines acc (xs ++ ys) =
      ((splitLines acc xs).1 ++ (splitLines (splitLines acc xs).2 ys).1,
        (splitLines (splitLines acc xs).2 ys).2) := by
  induction xs generalizing acc with
  | nil => simp [splitLines]
  | cons b xs ih =>
    by_cases hb : b = 0x0A
    · simp [splitLines, hb, ih]
    · simp [splitLines, hb, ih]

/-- Two writes do what one write of both does. -/
theorem write_append (p : MemoryProcess) (xs ys : List UInt8) :
    p.write (xs ++ ys) = (((p.write xs).1.write ys).1, (p.write xs).2 ++ ((p.write xs).1.write ys).2) := by
  simp [write, splitLines_append, List.append_assoc]

/-- Any run of writes does what one write of the whole stream does. -/
theorem writeAll_eq_write (p : MemoryProcess) (chunks : List (List UInt8)) :
    p.writeAll chunks = p.write chunks.flatten := by
  induction chunks generalizing p with
  | nil => simp [writeAll, write, splitLines]
  | cons c cs ih => simp [writeAll, ih, List.flatten_cons, write_append]

/-- The splitter, from an unfinished line without a line feed, cuts the
    line and the bytes at their line feeds. -/
theorem splitLines_splitsInto (acc bs : List UInt8) (hacc : 0x0A ∉ acc) :
    SplitsInto (acc ++ bs) (splitLines acc bs).1 (splitLines acc bs).2 := by
  induction bs generalizing acc with
  | nil => exact ⟨by simp [splitLines], by simp [splitLines], by simpa [splitLines] using hacc⟩
  | cons b bs ih =>
    by_cases hb : b = 0x0A
    · -- the line feed ends the line so far; the rest is split from scratch
      subst hb
      obtain ⟨heq, hlines, hrest⟩ := ih [] List.not_mem_nil
      rw [splitLines_lf]
      refine ⟨?_, ?_, hrest⟩
      · simp only [List.map_cons, List.flatten_cons, List.append_assoc]
        rw [← heq]
        simp
      · intro l hl
        rcases List.mem_cons.mp hl with rfl | hl
        · exact hacc
        · exact hlines l hl
    · -- any other byte joins the unfinished line
      have hacc' : 0x0A ∉ acc ++ [b] := by simp [hacc, Ne.symm hb]
      rw [splitLines_other acc hb, show acc ++ b :: bs = acc ++ [b] ++ bs by simp]
      exact ih (acc ++ [b]) hacc'

/-- A write never leaves a line feed in the unfinished line. -/
theorem write_line_free (p : MemoryProcess) (hp : 0x0A ∉ p.line) (bytes : List UInt8) :
    0x0A ∉ (p.write bytes).1.line :=
  (splitLines_splitsInto p.line bytes hp).rest_free

/-- However a byte stream is split into writes, the writes do what one write
    of the whole stream does; the process records the whole stream as its
    input; and the lines handed on are the stream's lines, one per line feed
    and in order, each the lossy reading of the bytes since the line feed
    before it (or since the unfinished line it started from). The bytes
    after the last line feed are not handed on: they stay as the unfinished
    line. -/
theorem written_lines (p : MemoryProcess) (hp : 0x0A ∉ p.line) (chunks : List (List UInt8)) :
    p.writeAll chunks = p.write chunks.flatten ∧
    (p.writeAll chunks).1.input = p.input ++ chunks.flatten ∧
    ∃ lines, SplitsInto (p.line ++ chunks.flatten) lines (p.writeAll chunks).1.line ∧
      (p.writeAll chunks).2 = lines.map Utf8.decodeLossyString ∧
      lines.length = (p.line ++ chunks.flatten).count 0x0A := by
  have hsplit := splitLines_splitsInto p.line chunks.flatten hp
  have hall := writeAll_eq_write p chunks
  refine ⟨hall, by simp [hall, write], (splitLines p.line chunks.flatten).1, ?_, ?_, hsplit.length_eq_count⟩
  · simpa [hall, write] using hsplit
  · simp [hall, write]

/-- Writes of `one⏎tw` and then `o⏎bye⏎` into a fresh process. -/
theorem split_writes_hand_on_lines :
    0x0A ∉ ({} : MemoryProcess).line ∧
    (({} : MemoryProcess).writeAll [Utf8.encode "one\ntw", Utf8.encode "o\nbye\n"] =
        ({} : MemoryProcess).write [Utf8.encode "one\ntw", Utf8.encode "o\nbye\n"].flatten ∧
      (({} : MemoryProcess).writeAll [Utf8.encode "one\ntw", Utf8.encode "o\nbye\n"]).1.input =
        ({} : MemoryProcess).input ++ [Utf8.encode "one\ntw", Utf8.encode "o\nbye\n"].flatten ∧
      ∃ lines, SplitsInto (({} : MemoryProcess).line ++ [Utf8.encode "one\ntw", Utf8.encode "o\nbye\n"].flatten)
          lines (({} : MemoryProcess).writeAll [Utf8.encode "one\ntw", Utf8.encode "o\nbye\n"]).1.line ∧
        (({} : MemoryProcess).writeAll [Utf8.encode "one\ntw", Utf8.encode "o\nbye\n"]).2 =
          lines.map Utf8.decodeLossyString ∧
        lines.length = (({} : MemoryProcess).line ++ [Utf8.encode "one\ntw", Utf8.encode "o\nbye\n"].flatten).count 0x0A) :=
  ⟨List.not_mem_nil, written_lines {} List.not_mem_nil _⟩

end MemoryProcess

end ReplHost
