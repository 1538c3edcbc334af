import ReplHost.Text.Utf8

/-! # Incremental UTF-8 decoding of process output

  Process output arrives in reads of arbitrary size, so a character may be
  split between two reads. `Utf8Decoder` keeps the bytes of such a split
  character back until the rest arrives:

  - `decode` joins the held bytes with the new read, holds back an unfinished
    trailing sequence (`incompleteTail`), and reads the rest lossily;
  - `finish` reads whatever is still held, lossily, and empties the decoder.

  `incompleteTail` judges the trailing sequence by its lead byte alone: it
  walks back over at most three continuation bytes to the first other byte,
  and holds the tail back when that byte announces a longer sequence than
  what follows it. Leads are counted by their high bits: `0xC0..0xDF` announce two
  bytes, `0xE0..0xEF` three and `0xF0..0xF7` four.
-/

namespace ReplHost

/-- The length a lead byte announces, judged by its high bits alone
    (0 for a byte that is not a lead). -/
def announcedWidth (b : UInt8) : Nat :=
  if 0xC0 ≤ b && b ≤ 0xDF then 2
  else if 0xE0 ≤ b && b ≤ 0xEF then 3
  else if 0xF0 ≤ b && b ≤ 0xF7 then 4
  else 0

/-- Walks back from the end (`rev` is the bytes in reverse), `back` being
    the number of bytes looked at so far plus one. -/
def tailFrom : List UInt8 → Nat → Nat
  | [], _ => 0
  | b :: rest, back =>
    if back > 3 then 0
    else if Utf8.isCont b then tailFrom rest (back + 1)
    else if announcedWidth b > back then back
    else 0

/-- The length of an unfinished multi-byte sequence at the end of `bytes`. -/
def incompleteTail (bytes : List UInt8) : Nat := tailFrom bytes.reverse 1

/-- A decoder of a byte stream into text. -/
structure Utf8Decoder where
  /-- Bytes of a split character, held back until the rest arrives. -/
  pending : List UInt8 := []
  deriving DecidableEq, Repr

namespace Utf8Decoder

/-- Decodes the next read: returns the text and the decoder after it. -/
def decode (d : Utf8Decoder) (chunk : List UInt8) : Utf8Decoder × String :=
  let all := d.pending ++ chunk
  let split := all.length - incompleteTail all
  ({ pending := all.drop split }, Utf8.decodeLossyString (all.take split))

/-- Reads what is still held back, lossily, and empties the decoder. -/
def finish (d : Utf8Decoder) : Utf8Decoder × String :=
  ({ pending := [] }, Utf8.decodeLossyString d.pending)

/-- Runs the decoder over several reads, collecting each read's text. -/
def decodeAll (d : Utf8Decoder) : List (List UInt8) → Utf8Decoder × List String
  | [] => (d, [])
  | c :: cs =>
    let (d₁, t) := d.decode c
    let (d₂, ts) := d₁.decodeAll cs
    (d₂, t :: ts)

end Utf8Decoder

theorem tailFrom_le (rev : List UInt8) (back : Nat) : tailFrom rev back ≤ 3 := by
  induction rev generalizing back with
  | nil => simp [tailFrom]
  | cons b rest ih =>
    unfold tailFrom
    split
    · omega
    · split
      · exact ih (back + 1)
      · split <;> omega

/-- The decoder never holds back more than three bytes. -/
theorem incompleteTail_le (bytes : List UInt8) : incompleteTail bytes ≤ 3 :=
  tailFrom_le _ 1

end ReplHost
