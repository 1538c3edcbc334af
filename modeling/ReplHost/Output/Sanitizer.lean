import ReplHost.Text.Utf8

/-! # Stripping terminal escape sequences

  Consoles under a pseudo-terminal emit control sequences around every prompt:
  colours, cursor moves, bracketed-paste toggles, window titles. The sanitizer
  keeps the printable text and drops the rest. It is the DEC-style parser of
  escape sequences (states after P. Williams' diagram of the VT500 parser),
  run one byte at a time:

  - In the *ground* state bytes are read as UTF-8 (`Utf8.advance`). Printable
    characters are kept, DEL included. Control characters, 7-bit or 8-bit,
    raw or encoded, are *executed*; of those only tab, line feed and carriage
    return are kept.
  - An invalid subpart prints U+FFFD, except that a stray byte in
    `0x80..0x9F` is executed as the 8-bit control it spells.
  - ESC starts an escape sequence; CSI, OSC, DCS and SOS/PM/APC strings follow
    their own states and are dropped whole. Inside CSI and plain escape
    sequences controls below 0x20 are still executed; inside strings they are not.
  - CAN and SUB abort any sequence; ESC restarts one.

  The state survives between reads. Within a read the parser runs byte by byte
  (`VtState.run`). A character split across two reads is finished at the start
  of the next read by `VtState.resume`, which reads a window of up to four
  bytes: the held bytes and the first bytes of the new read. When that window
  holds the finished character followed by more whole characters and then an
  invalid subpart, only the first character is printed and the whole
  characters after it are skipped; a finished character is printed as it is,
  even an 8-bit control. Only this step makes the kept text depend on where reads
  are split.
-/

namespace ReplHost

/-- Where the parser stands between bytes. -/
inductive VtState where
  /-- Text, with a pending unfinished UTF-8 prefix (empty between characters). -/
  | ground (pending : List UInt8)
  /-- After ESC. -/
  | escape
  /-- After ESC and intermediate bytes. -/
  | escapeIntermediate
  /-- After ESC `[`. -/
  | csiEntry
  /-- Reading CSI parameters. -/
  | csiParam
  /-- Reading CSI intermediate bytes. -/
  | csiIntermediate
  /-- Skipping a malformed CSI sequence up to its final byte. -/
  | csiIgnore
  /-- After ESC `P`. -/
  | dcsEntry
  /-- Reading DCS parameters. -/
  | dcsParam
  /-- Reading DCS intermediate bytes. -/
  | dcsIntermediate
  /-- Passing DCS data through (dropped here). -/
  | dcsPassthrough
  /-- Skipping a malformed DCS string. -/
  | dcsIgnore
  /-- Reading an OSC string. -/
  | oscString
  /-- Reading an SOS, PM or APC string. -/
  | sosPmApcString
  deriving DecidableEq, Repr

namespace VtState

/-- The start state. -/
def initial : VtState := ground []

/-- What executing a control byte keeps: tab, line feed and carriage return. -/
def executed (b : UInt8) : List Char :=
  if b = 0x09 || b = 0x0A || b = 0x0D then [Char.ofNat b.toNat] else []

/-- What a decoded character contributes in the ground state: controls are
    executed, everything else is printed. -/
def dispatch (c : Char) : List Char :=
  if c.toNat < 0x20 then executed c.toNat.toUInt8
  else if 0x80 ≤ c.toNat && c.toNat ≤ 0x9F then []
  else [c]

/-- Controls below 0x20 that a sequence state executes: all but CAN, SUB and ESC. -/
def isPlainC0 (b : UInt8) : Bool := b ≤ 0x17 || b = 0x19 || (0x1C ≤ b && b ≤ 0x1F)

/-- Transitions valid in every sequence state: CAN and SUB abort to ground
    (being executed), ESC starts a new escape sequence; others are ignored. -/
def anywhere (s : VtState) (b : UInt8) : VtState × List Char :=
  if b = 0x18 || b = 0x1A then (initial, executed b)
  else if b = 0x1B then (escape, [])
  else (s, [])

/-- A byte read from scratch in the ground state. -/
def groundFresh (b : UInt8) : VtState × List Char :=
  if b = 0x1B then (escape, [])
  else
    match Utf8.advance [] b with
    | .done c => (initial, dispatch c)
    | .pending q => (ground q, [])
    | .broken => (initial, if 0x80 ≤ b && b ≤ 0x9F then [] else [Utf8.replacement])

/-- A byte in the ground state, after the pending prefix `p`. -/
def groundStep (p : List UInt8) (b : UInt8) : VtState × List Char :=
  match p with
  | [] => groundFresh b
  | _ :: _ =>
    match Utf8.advance p b with
    | .done c => (initial, dispatch c)
    | .pending q => (ground q, [])
    | .broken =>
      let (s, out) := groundFresh b
      (s, Utf8.replacement :: out)

/-- One byte: the state after it and the text it keeps. -/
def step : VtState → UInt8 → VtState × List Char
  | ground p, b => groundStep p b
  | escape, b =>
    if isPlainC0 b then (escape, executed b)
    else if 0x20 ≤ b && b ≤ 0x2F then (escapeIntermediate, [])
    else if b = 0x50 then (dcsEntry, [])
    else if b = 0x5B then (csiEntry, [])
    else if b = 0x5D then (oscString, [])
    else if b = 0x58 || b = 0x5E || b = 0x5F then (sosPmApcString, [])
    else if 0x30 ≤ b && b ≤ 0x7E then (initial, [])
    else anywhere escape b
  | escapeIntermediate, b =>
    if isPlainC0 b then (escapeIntermediate, executed b)
    else if 0x20 ≤ b && b ≤ 0x2F then (escapeIntermediate, [])
    else if 0x30 ≤ b && b ≤ 0x7E then (initial, [])
    else anywhere escapeIntermediate b
  | csiEntry, b =>
    if isPlainC0 b then (csiEntry, executed b)
    else if 0x20 ≤ b && b ≤ 0x2F then (csiIntermediate, [])
    else if 0x30 ≤ b && b ≤ 0x3F then (csiParam, [])
    else if 0x40 ≤ b && b ≤ 0x7E then (initial, [])
    else anywhere csiEntry b
  | csiParam, b =>
    if isPlainC0 b then (csiParam, executed b)
    else if 0x20 ≤ b && b ≤ 0x2F then (csiIntermediate, [])
    else if 0x30 ≤ b && b ≤ 0x3B then (csiParam, [])
    else if 0x3C ≤ b && b ≤ 0x3F then (csiIgnore, [])
    else if 0x40 ≤ b && b ≤ 0x7E then (initial, [])
    else anywhere csiParam b
  | csiIntermediate, b =>
    if isPlainC0 b then (csiIntermediate, executed b)
    else if 0x20 ≤ b && b ≤ 0x2F then (csiIntermediate, [])
    else if 0x30 ≤ b && b ≤ 0x3F then (csiIgnore, [])
    else if 0x40 ≤ b && b ≤ 0x7E then (initial, [])
    else anywhere csiIntermediate b
  | csiIgnore, b =>
    if isPlainC0 b then (csiIgnore, executed b)
    else if 0x40 ≤ b && b ≤ 0x7E then (initial, [])
    else anywhere csiIgnore b
  | dcsEntry, b =>
    if 0x20 ≤ b && b ≤ 0x2F then (dcsIntermediate, [])
    else if 0x30 ≤ b && b ≤ 0x3F then (dcsParam, [])
    else if 0x40 ≤ b && b ≤ 0x7E then (dcsPassthrough, [])
    else anywhere dcsEntry b
  | dcsParam, b =>
    if 0x20 ≤ b && b ≤ 0x2F then (dcsIntermediate, [])
    else if 0x30 ≤ b && b ≤ 0x3B then (dcsParam, [])
    else if 0x3C ≤ b && b ≤ 0x3F then (dcsIgnore, [])
    else if 0x40 ≤ b && b ≤ 0x7E then (dcsPassthrough, [])
    else anywhere dcsParam b
  | dcsIntermediate, b =>
    if 0x20 ≤ b && b ≤ 0x2F then (dcsIntermediate, [])
    else if 0x30 ≤ b && b ≤ 0x3F then (dcsIgnore, [])
    else if 0x40 ≤ b && b ≤ 0x7E then (dcsPassthrough, [])
    else anywhere dcsIntermediate b
  | dcsPassthrough, b =>
    if b = 0x9C then (initial, []) else anywhere dcsPassthrough b
  | dcsIgnore, b => anywhere dcsIgnore b
  | oscString, b =>
    if b = 0x07 then (initial, []) else anywhere oscString b
  | sosPmApcString, b => anywhere sosPmApcString b

/-- Runs the parser over bytes, collecting the kept text. -/
def run (s : VtState) : List UInt8 → VtState × List Char
  | [] => (s, [])
  | b :: rest =>
    let (s₁, out₁) := s.step b
    let (s₂, out₂) := s₁.run rest
    (s₂, out₁ ++ out₂)

theorem run_append (s : VtState) (a b : List UInt8) :
    s.run (a ++ b) =
      ((s.run a).1.run b |>.1, (s.run a).2 ++ ((s.run a).1.run b).2) := by
  induction a generalizing s with
  | nil => simp [run]
  | cons x xs ih => simp [run, ih]

/-- Finishes a character split between reads: `p` is the held prefix and
    `bytes` the new read. Returns the state, the kept text and how many bytes
    of the new read were used. -/
def resume (p bytes : List UInt8) : VtState × List Char × Nat :=
  let window := bytes.take (4 - p.length)
  let buf := p ++ window
  let first := (Utf8.decodeLossy buf).headD Utf8.replacement
  match Utf8.firstProblem? buf with
  | none => (initial, [first], Utf8.charWidth first - p.length)
  | some ⟨valid, len?⟩ =>
    if 0 < valid then (initial, [first], valid - p.length)
    else
      match len? with
      | some n => (initial, [Utf8.replacement], n - p.length)
      | none => (ground buf, [], window.length)

/-- Reads one read of bytes: a held character is finished first, then the
    bytes run one at a time. -/
def feed (s : VtState) (bytes : List UInt8) : VtState × List Char :=
  match s with
  | ground (b :: more) =>
    let (s₁, out₁, used) := resume (b :: more) bytes
    let (s₂, out₂) := s₁.run (bytes.drop used)
    (s₂, out₁ ++ out₂)
  | _ => s.run bytes

end VtState

/-- A stream sanitizer: the parser state that survives between reads. -/
structure Sanitizer where
  /-- The parser state. -/
  state : VtState := VtState.initial
  deriving DecidableEq, Repr

namespace Sanitizer

/-- Feeds one read; returns the text it keeps and the sanitizer after it. -/
def feed (z : Sanitizer) (bytes : List UInt8) : Sanitizer × String :=
  let (s, out) := z.state.feed bytes
  ({ state := s }, String.ofList out)

/-- The text a complete buffer keeps. -/
def strip (bytes : List UInt8) : String := (({} : Sanitizer).feed bytes).2

/-- Feeds several reads in turn, collecting each read's text. -/
def feedAll (z : Sanitizer) : List (List UInt8) → Sanitizer × List String
  | [] => (z, [])
  | c :: cs =>
    let (z₁, t) := z.feed c
    let (z₂, ts) := z₁.feedAll cs
    (z₂, t :: ts)

/-- How a sanitizer shows in diagnostics. -/
def describe (_ : Sanitizer) : String := "OutputSanitizer \x7b .. \x7d"

end Sanitizer

end ReplHost
