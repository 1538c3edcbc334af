/-! # UTF-8, one byte at a time

  A UTF-8 character is one to four bytes (RFC 3629 §4): a lead byte, then
  continuation bytes in `0x80..0xBF`. The second byte after the leads `E0`,
  `ED`, `F0` and `F4` has a narrower range, which rules out overlong forms,
  surrogates and code points above U+10FFFF.

  `Utf8.advance` is the byte-at-a-time machine every decoder of this library
  runs. Its state is the *pending* bytes: a valid but unfinished prefix of a
  character. One byte either finishes a character, extends the prefix, or
  cannot follow it (`Utf8.Advance.broken`); in the last case the prefix is one
  *maximal invalid subpart* and the byte is read again from scratch.

  `Utf8.decodeLossy` is the standard lossy reading built on that machine: each
  maximal invalid subpart, and an unfinished prefix at the end, becomes one
  U+FFFD. `Utf8.firstProblem?` locates the first invalid subpart the way a
  strict reading reports it. `Utf8.encode` writes characters as bytes.
-/

namespace ReplHost.Utf8

/-- The replacement character U+FFFD. -/
def replacement : Char := '�'

/-- A continuation byte, `0x80..0xBF`. -/
def isCont (b : UInt8) : Bool := 0x80 ≤ b && b ≤ 0xBF

/-- The number of bytes a character with this lead byte has, or 0 when the
    byte cannot start a character. -/
def leadWidth (b : UInt8) : Nat :=
  if b < 0x80 then 1
  else if 0xC2 ≤ b && b ≤ 0xDF then 2
  else if 0xE0 ≤ b && b ≤ 0xEF then 3
  else if 0xF0 ≤ b && b ≤ 0xF4 then 4
  else 0

/-- The range the byte after a lead byte must lie in. -/
def secondRange (lead : UInt8) : UInt8 × UInt8 :=
  if lead = 0xE0 then (0xA0, 0xBF)
  else if lead = 0xED then (0x80, 0x9F)
  else if lead = 0xF0 then (0x90, 0xBF)
  else if lead = 0xF4 then (0x80, 0x8F)
  else (0x80, 0xBF)

/-- Whether `b` may follow the unfinished prefix `lead :: more`. -/
def mayFollow (lead : UInt8) (more : List UInt8) (b : UInt8) : Bool :=
  if more.isEmpty then
    let r := secondRange lead
    r.1 ≤ b && b ≤ r.2
  else isCont b

/-- The low six bits of a continuation byte. -/
def payload (b : UInt8) : Nat := b.toNat % 64

/-- The code point of a complete character given as its bytes. -/
def codePoint : List UInt8 → Nat
  | [a] => a.toNat
  | [a, b] => (a.toNat % 32) * 64 + payload b
  | [a, b, c] => ((a.toNat % 16) * 64 + payload b) * 64 + payload c
  | [a, b, c, d] => (((a.toNat % 8) * 64 + payload b) * 64 + payload c) * 64 + payload d
  | _ => 0

/-- The character a complete sequence stands for. -/
def charOf (bytes : List UInt8) : Char := Char.ofNat (codePoint bytes)

/-- What one byte does to a pending prefix. -/
inductive Advance where
  /-- The byte finishes a character. -/
  | done (c : Char)
  /-- The byte extends the prefix, which stays unfinished. -/
  | pending (bytes : List UInt8)
  /-- The byte cannot follow the prefix (or, with nothing pending, cannot
      start a character). -/
  | broken
  deriving DecidableEq, Repr

/-- Reads one byte after the pending prefix `p` (empty between characters). -/
def advance (p : List UInt8) (b : UInt8) : Advance :=
  match p with
  | [] =>
    match leadWidth b with
    | 1 => .done (Char.ofNat b.toNat)
    | 0 => .broken
    | _ => .pending [b]
  | lead :: more =>
    if mayFollow lead more b then
      let q := p ++ [b]
      if q.length = leadWidth lead then .done (charOf q) else .pending q
    else .broken

/-- The lossy reading of bytes after the pending prefix `p`: characters as
    read, one U+FFFD per maximal invalid subpart and one for an unfinished
    prefix at the end. -/
def lossyFrom (p : List UInt8) : List UInt8 → List Char
  | [] => if p.isEmpty then [] else [replacement]
  | b :: rest =>
    match advance p b with
    | .done c => c :: lossyFrom [] rest
    | .pending q => lossyFrom q rest
    | .broken =>
      if p.isEmpty then replacement :: lossyFrom [] rest
      else
        replacement ::
          match advance [] b with
          | .done c => c :: lossyFrom [] rest
          | .pending q => lossyFrom q rest
          | .broken => replacement :: lossyFrom [] rest

/-- The lossy reading of a byte string. -/
def decodeLossy (bytes : List UInt8) : List Char := lossyFrom [] bytes

/-- The lossy reading of a byte string, as a string. -/
def decodeLossyString (bytes : List UInt8) : String := String.ofList (decodeLossy bytes)

/-- The first problem of a byte string read as UTF-8: how many bytes before it
    form whole characters, and how long the invalid subpart is (`none` when the
    string ends inside a character). -/
structure Problem where
  /-- The bytes before the problem, all whole characters. -/
  validUpTo : Nat
  /-- The length of the maximal invalid subpart, or `none` for an unfinished end. -/
  errorLen : Option Nat
  deriving DecidableEq, Repr

/-- Walks the bytes after pending prefix `p`, `boundary` bytes being whole
    characters so far. -/
def problemFrom (p : List UInt8) (boundary : Nat) : List UInt8 → Option Problem
  | [] => if p.isEmpty then none else some ⟨boundary, none⟩
  | b :: rest =>
    match advance p b with
    | .done _ => problemFrom [] (boundary + p.length + 1) rest
    | .pending q => problemFrom q boundary rest
    | .broken => some ⟨boundary, some (max 1 p.length)⟩

/-- The first problem of a byte string, or `none` when it is valid UTF-8. -/
def firstProblem? (bytes : List UInt8) : Option Problem := problemFrom [] 0 bytes

/-- The UTF-8 bytes of one character. -/
def encodeChar (c : Char) : List UInt8 :=
  let n := c.toNat
  if n < 0x80 then [n.toUInt8]
  else if n < 0x800 then [(0xC0 + n / 64).toUInt8, (0x80 + n % 64).toUInt8]
  else if n < 0x10000 then
    [(0xE0 + n / 4096).toUInt8, (0x80 + n / 64 % 64).toUInt8, (0x80 + n % 64).toUInt8]
  else
    [(0xF0 + n / 262144).toUInt8, (0x80 + n / 4096 % 64).toUInt8,
      (0x80 + n / 64 % 64).toUInt8, (0x80 + n % 64).toUInt8]

/-- The UTF-8 bytes of a list of characters. -/
def encodeChars (cs : List Char) : List UInt8 := cs.flatMap encodeChar

/-- The UTF-8 bytes of a string. -/
def encode (s : String) : List UInt8 := encodeChars s.toList

/-- The number of bytes of a string's UTF-8 form. -/
def byteLength (s : String) : Nat := (encode s).length

/-- The byte length of one character: 1 to 4. -/
def charWidth (c : Char) : Nat := (encodeChar c).length

end ReplHost.Utf8
