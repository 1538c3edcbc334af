import ReplHost.Json.Error
import ReplHost.Text.Utf8

/-! # Reading JSON text

  A `Json.Reader` walks the bytes of a JSON text with a cursor and either
  yields a value or stops at the first fault, with the position where it was
  noticed. Two positions are used: a fault noticed on a byte already read is
  placed after that byte (`fail`); a fault noticed by looking at the next byte
  is placed after the looked-at byte (`failAhead`), but never past the end.

  This module reads the lexical parts: blanks, literal words, strings with
  their escapes, and numbers. A number is an unsigned integer below 2^64, a
  negative integer down to -2^63, or else a binary64 value (`Json.Number`).
  `skipValue` reads any value and discards it, checking only its syntax.

  Loops run on *fuel*: every round reads at least one byte, so the number of
  bytes left, plus one, is always enough.
-/

namespace ReplHost.Json

variable {α : Type}

/-- Where the reader stands. -/
structure Cursor where
  /-- The whole text. -/
  src : List UInt8
  /-- The bytes not read yet. -/
  rest : List UInt8
  /-- How many bytes were read. -/
  index : Nat

/-- A reader of JSON text. -/
abbrev Reader := StateT Cursor (Except Error)

/-- A cursor at the start of a text. -/
def Cursor.start (src : List UInt8) : Cursor := ⟨src, src, 0⟩

/-- The error for a fault at byte offset `i`. -/
def errorAt (src : List UInt8) (i : Nat) (f : Fault) : Error :=
  let (line, column) := positionOf src i
  ⟨f, line, column⟩

/-- Stops with a fault placed after the bytes read. -/
def fail (f : Fault) : Reader α := do
  let c ← get
  throw (errorAt c.src c.index f)

/-- Stops with a fault placed after the next byte, or at the end. -/
def failAhead (f : Fault) : Reader α := do
  let c ← get
  throw (errorAt c.src (min c.src.length (c.index + 1)) f)

/-- The next byte, without reading it. -/
def peek? : Reader (Option UInt8) := do return (← get).rest.head?

/-- Reads one byte. -/
def bump : Reader Unit :=
  modify fun c =>
    match c.rest with
    | _ :: r => { c with rest := r, index := c.index + 1 }
    | [] => c

/-- Reads and returns the next byte. -/
def next? : Reader (Option UInt8) := do
  let b ← peek?
  bump
  return b

/-- Blanks between tokens: space, line feed, tab, carriage return. -/
def isBlank (b : UInt8) : Bool := b == 0x20 || b == 0x0A || b == 0x09 || b == 0x0D

/-- Drops leading blanks, counting them. -/
def dropBlanks : List UInt8 → Nat → List UInt8 × Nat
  | [], n => ([], n)
  | b :: r, n => if isBlank b then dropBlanks r (n + 1) else (b :: r, n)

/-- Skips blanks and looks at the next byte. -/
def skipBlanks : Reader (Option UInt8) := do
  let c ← get
  let (r, n) := dropBlanks c.rest 0
  set { c with rest := r, index := c.index + n }
  return r.head?

/-- Whether a byte is an ASCII digit. -/
def isDigit (b : UInt8) : Bool := 0x30 ≤ b && b ≤ 0x39

/-- The value of an ASCII digit. -/
def digitOf (b : UInt8) : Nat := b.toNat - 0x30

/-- Reads the rest of a literal word, byte by byte. -/
def expectWord : List UInt8 → Reader Unit
  | [] => pure ()
  | w :: ws => do
    match ← next? with
    | some b => if b = w then expectWord ws else fail .expectedIdent
    | none => fail .eofValue

/-! ### Strings -/

/-- The value of a hexadecimal digit. -/
def hexValue? (b : UInt8) : Option Nat :=
  if isDigit b then some (digitOf b)
  else if 0x61 ≤ b && b ≤ 0x66 then some (b.toNat - 0x61 + 10)
  else if 0x41 ≤ b && b ≤ 0x46 then some (b.toNat - 0x41 + 10)
  else none

/-- Reads the four hexadecimal digits of a `\u` escape. -/
def hexQuad : Reader Nat := do
  let c ← get
  match c.rest with
  | a :: b :: d :: e :: r =>
    set { c with rest := r, index := c.index + 4 }
    match hexValue? a, hexValue? b, hexValue? d, hexValue? e with
    | some w, some x, some y, some z => return ((w * 16 + x) * 16 + y) * 16 + z
    | _, _, _, _ => fail .invalidEscape
  | _ =>
    set { c with rest := [], index := c.src.length }
    fail .eofString

/-- Reads what follows `\u`: one code point, or a surrogate pair. -/
def unicodeEscape : Reader Char := do
  let n ← hexQuad
  if 0xDC00 ≤ n && n ≤ 0xDFFF then fail .loneLeadingSurrogate
  else if n < 0xD800 || 0xDBFF < n then return Char.ofNat n
  else
    match ← peek? with
    | none => fail .eofString
    | some 0x5C => bump
    | some _ => do bump; fail .unexpectedEndOfHexEscape
    match ← peek? with
    | none => fail .eofString
    | some 0x75 => bump
    | some _ => do bump; fail .unexpectedEndOfHexEscape
    let n₂ ← hexQuad
    if n₂ < 0xDC00 || 0xDFFF < n₂ then fail .loneLeadingSurrogate
    else return Char.ofNat (0x10000 + (n - 0xD800) * 0x400 + (n₂ - 0xDC00))

/-- Reads an escape after its backslash. -/
def escape : Reader Char := do
  match ← next? with
  | none => fail .eofString
  | some 0x22 => return '"'
  | some 0x5C => return '\\'
  | some 0x2F => return '/'
  | some 0x62 => return '\x08'
  | some 0x66 => return '\x0c'
  | some 0x6E => return '\n'
  | some 0x72 => return '\r'
  | some 0x74 => return '\t'
  | some 0x75 => unicodeEscape
  | some _ => fail .invalidEscape

/-- Reads the body of a string after its opening quote; `acc` holds the
    bytes read so far, last first. -/
def stringBody (acc : List UInt8) : Nat → Reader String
  | 0 => fail .eofString
  | fuel + 1 => do
    match ← peek? with
    | none => fail .eofString
    | some 0x22 => do
      bump
      return Utf8.decodeLossyString acc.reverse
    | some 0x5C => do
      bump
      let c ← escape
      stringBody ((Utf8.encodeChar c).reverse ++ acc) fuel
    | some b =>
      if b < 0x20 then do bump; fail .controlCharacter
      else do bump; stringBody (b :: acc) fuel

/-- Reads a string after its opening quote. -/
def string : Reader String := do
  stringBody [] ((← get).rest.length + 1)

/-- Skips an escape after its backslash, checking only its form. -/
def skipEscape : Reader Unit := do
  match ← next? with
  | none => fail .eofString
  | some b =>
    if b = 0x22 || b = 0x5C || b = 0x2F || b = 0x62 || b = 0x66 || b = 0x6E ||
        b = 0x72 || b = 0x74 then pure ()
    else if b = 0x75 then do let _ ← hexQuad
    else fail .invalidEscape

/-- Skips the body of a string after its opening quote. -/
def skipStringBody : Nat → Reader Unit
  | 0 => fail .eofString
  | fuel + 1 => do
    match ← peek? with
    | none => fail .eofString
    | some 0x22 => bump
    | some 0x5C => do bump; skipEscape; skipStringBody fuel
    | some b => if b < 0x20 then fail .controlCharacter else do bump; skipStringBody fuel

/-! ### Numbers -/

/-- A number as read. -/
inductive Number where
  /-- An integer in `0 .. 2^64 - 1`. -/
  | unsigned (n : Nat)
  /-- An integer in `-2^63 .. -1`. -/
  | negative (i : Int)
  /-- Any other number. -/
  | float (x : Binary64)
  deriving DecidableEq, Repr

/-- What a number is, as a found value. -/
def Number.found : Number → Found
  | .unsigned n => .unsigned n
  | .negative i => .signed i
  | .float x => .float x

/-- The largest exponent a number may carry: 2^31 - 1. -/
def exponentMax : Int := 2147483647

/-- Clamps an exponent to the 32-bit range. -/
def clampExponent (e : Int) : Int := max (-exponentMax - 1) (min exponentMax e)

/-- Scales `f` by `10^e`, dividing by `10^308` first while `e` is below
    `-308`; `none` when the result is out of range. -/
def scale (f : Binary64) (e : Int) : (fuel : Nat) → Option Binary64
  | 0 => some f
  | fuel + 1 =>
    if e.natAbs ≤ 308 then
      match pow10 e.natAbs with
      | none => none
      | some p => if 0 ≤ e then f.mul p else f.div p
    else if f.isZero then some f
    else if 0 ≤ e then none
    else
      match Binary64.pow10 308 with
      | none => none
      | some p =>
        match f.div p with
        | none => none
        | some g => scale g (e + 308) fuel
where
  pow10 (k : Nat) : Option Binary64 := Binary64.pow10 k

/-- The value `± significand · 10^exponent`, as a number reader computes it:
    the significand rounded first, then one rounding per power of ten. -/
def fromParts (positive : Bool) (significand : Nat) (exponent : Int) : Reader Number := do
  match Binary64.ofNat significand with
  | none => fail .numberOutOfRange
  | some f =>
    match scale f exponent (exponent.natAbs / 308 + 2) with
    | none => fail .numberOutOfRange
    | some g => return .float (if positive then g else g.neg)

/-- Whether `s · 10 + d` passes 2^64 - 1. -/
def overflows (s d : Nat) : Bool := s * 10 + d > Decimal.wordMax

/-- Skips digits. -/
def skipDigits : Nat → Reader Unit
  | 0 => pure ()
  | fuel + 1 => do
    match ← peek? with
    | some b => if isDigit b then do bump; skipDigits fuel else pure ()
    | none => pure ()

/-- A number whose exponent is too large to hold: zero, or out of range. -/
def exponentOverflow (positive zeroSignificand positiveExp : Bool) : Reader Number := do
  if !zeroSignificand && positiveExp then fail .numberOutOfRange
  else
    skipDigits ((← get).rest.length + 1)
    let z : Binary64 := ⟨false, 0, Binary64.minExponent⟩
    return .float (if positive then z else z.neg)

/-- Reads the digits of an exponent after its first digit. -/
def exponentDigits (positive : Bool) (significand : Nat) (startExp : Int) (positiveExp : Bool)
    (exp : Nat) : Nat → Reader Number
  | 0 => fail .invalidNumber
  | fuel + 1 => do
    match ← peek? with
    | some b =>
      if isDigit b then do
        bump
        let exp' := exp * 10 + digitOf b
        if exp' > exponentMax.toNat then exponentOverflow positive (significand == 0) positiveExp
        else exponentDigits positive significand startExp positiveExp exp' fuel
      else finish
    | none => finish
where
  finish : Reader Number :=
    let e := if positiveExp then startExp + exp else startExp - exp
    fromParts positive significand (clampExponent e)

/-- Reads an exponent, from its `e`. -/
def exponentPart (positive : Bool) (significand : Nat) (startExp : Int) : Reader Number := do
  bump
  let positiveExp ← do
    match ← peek? with
    | some 0x2B => do bump; pure true
    | some 0x2D => do bump; pure false
    | _ => pure true
  match ← next? with
  | none => fail .eofValue
  | some b =>
    if isDigit b then
      exponentDigits positive significand startExp positiveExp (digitOf b) ((← get).rest.length + 1)
    else fail .invalidNumber

/-- After too many digits: the rest are ignored, then an exponent may follow. -/
def decimalOverflow (positive : Bool) (significand : Nat) (exponent : Int) : Reader Number := do
  skipDigits ((← get).rest.length + 1)
  match ← peek? with
  | some 0x65 | some 0x45 => exponentPart positive significand exponent
  | _ => fromParts positive significand exponent

/-- Reads fraction digits; `after` counts them so far. -/
def fractionDigits (positive : Bool) (significand : Nat) (before : Int) (after : Nat) :
    Nat → Reader Number
  | 0 => fail .invalidNumber
  | fuel + 1 => do
    match ← peek? with
    | some b =>
      if isDigit b then
        if overflows significand (digitOf b) then decimalOverflow positive significand (before - after)
        else do
          bump
          fractionDigits positive (significand * 10 + digitOf b) before (after + 1) fuel
      else finish
    | none => finish
where
  finish : Reader Number := do
    if after = 0 then
      match ← peek? with
      | some _ => failAhead .invalidNumber
      | none => failAhead .eofValue
    else
      match ← peek? with
      | some 0x65 | some 0x45 => exponentPart positive significand (before - after)
      | _ => fromParts positive significand (before - after)

/-- Reads a fraction, from its point. -/
def fractionPart (positive : Bool) (significand : Nat) (before : Int) : Reader Number := do
  bump
  fractionDigits positive significand before 0 ((← get).rest.length + 1)

/-- What follows the integer digits: a fraction, an exponent, or nothing. -/
def numberTail (positive : Bool) (significand : Nat) : Reader Number := do
  match ← peek? with
  | some 0x2E => fractionPart positive significand 0
  | some 0x65 | some 0x45 => exponentPart positive significand 0
  | _ =>
    if positive then return .unsigned significand
    else if 1 ≤ significand && significand ≤ Nat.pow 2 63 then return .negative (-(significand : Int))
    else
      match Binary64.ofNat significand with
      | some f => return .float f.neg
      | none => fail .numberOutOfRange

/-- Integer digits past 2^64 - 1: each one scales by ten. -/
def longInteger (positive : Bool) (significand : Nat) (exponent : Nat) : Nat → Reader Number
  | 0 => fail .invalidNumber
  | fuel + 1 => do
    match ← peek? with
    | some b =>
      if isDigit b then do bump; longInteger positive significand (exponent + 1) fuel
      else if b = 0x2E then fractionPart positive significand exponent
      else if b = 0x65 || b = 0x45 then exponentPart positive significand exponent
      else fromParts positive significand exponent
    | none => fromParts positive significand exponent

/-- Reads integer digits after the first. -/
def integerDigits (positive : Bool) (significand : Nat) : Nat → Reader Number
  | 0 => fail .invalidNumber
  | fuel + 1 => do
    match ← peek? with
    | some b =>
      if isDigit b then
        if overflows significand (digitOf b) then
          longInteger positive significand 0 ((← get).rest.length + 1)
        else do
          bump
          integerDigits positive (significand * 10 + digitOf b) fuel
      else numberTail positive significand
    | none => numberTail positive significand

/-- Reads a number without its sign. -/
def number (positive : Bool) : Reader Number := do
  match ← next? with
  | none => fail .eofValue
  | some b =>
    if b = 0x30 then
      match ← peek? with
      | some d => if isDigit d then failAhead .invalidNumber else numberTail positive 0
      | none => numberTail positive 0
    else if isDigit b then integerDigits positive (digitOf b) ((← get).rest.length + 1)
    else fail .invalidNumber

/-- Skips exponent digits, from the `e`. -/
def skipExponent : Reader Unit := do
  bump
  match ← peek? with
  | some 0x2B | some 0x2D => bump
  | _ => pure ()
  match ← peek? with
  | some b => if isDigit b then do bump; skipDigits ((← get).rest.length + 1) else do bump; fail .invalidNumber
  | none => fail .invalidNumber

/-- Skips a number without its sign, checking its form. -/
def skipNumber : Reader Unit := do
  match ← peek? with
  | some 0x30 =>
    bump
    match ← peek? with
    | some d => if isDigit d then failAhead .invalidNumber else pure ()
    | none => pure ()
  | some b =>
    if isDigit b then do bump; skipDigits ((← get).rest.length + 1)
    else do bump; fail .invalidNumber
  | none => fail .invalidNumber
  match ← peek? with
  | some 0x2E =>
    bump
    match ← peek? with
    | some d =>
      if isDigit d then do
        skipDigits ((← get).rest.length + 1)
        match ← peek? with
        | some 0x65 | some 0x45 => skipExponent
        | _ => pure ()
      else failAhead .invalidNumber
    | none => failAhead .invalidNumber
  | some 0x65 | some 0x45 => skipExponent
  | _ => pure ()

/-! ### Skipping whole values -/

mutual

/-- Skips any value, checking its syntax. -/
def skipValue : Nat → Reader Unit
  | 0 => failAhead .eofValue
  | fuel + 1 => do
    match ← skipBlanks with
    | none => failAhead .eofValue
    | some 0x6E => do bump; expectWord [0x75, 0x6C, 0x6C]
    | some 0x74 => do bump; expectWord [0x72, 0x75, 0x65]
    | some 0x66 => do bump; expectWord [0x61, 0x6C, 0x73, 0x65]
    | some 0x2D => do bump; skipNumber
    | some 0x22 => do bump; skipStringBody ((← get).rest.length + 1)
    | some 0x5B => do
      bump
      match ← skipBlanks with
      | some 0x5D => bump
      | none => failAhead .eofList
      | some _ => skipElements fuel
    | some 0x7B => do
      bump
      match ← skipBlanks with
      | some 0x7D => bump
      | none => failAhead .eofObject
      | some _ => skipMembers fuel
    | some b => if isDigit b then skipNumber else failAhead .expectedValue

/-- Skips array elements up to the closing bracket. -/
def skipElements : Nat → Reader Unit
  | 0 => failAhead .eofList
  | fuel + 1 => do
    skipValue fuel
    match ← skipBlanks with
    | some 0x2C => do bump; skipElements fuel
    | some 0x5D => bump
    | some _ => failAhead .expectedListCommaOrEnd
    | none => failAhead .eofList

/-- Skips object members up to the closing brace. -/
def skipMembers : Nat → Reader Unit
  | 0 => failAhead .eofObject
  | fuel + 1 => do
    match ← skipBlanks with
    | some 0x22 => do bump; skipStringBody ((← get).rest.length + 1)
    | some _ => failAhead .keyMustBeString
    | none => failAhead .eofObject
    match ← skipBlanks with
    | some 0x3A => bump
    | some _ => failAhead .expectedColon
    | none => failAhead .eofObject
    skipValue fuel
    match ← skipBlanks with
    | some 0x2C => do bump; skipMembers fuel
    | some 0x7D => bump
    | some _ => failAhead .expectedObjectCommaOrEnd
    | none => failAhead .eofObject

end

/-- Reads a whole text with `r`; only blanks may follow. -/
def readDocument (r : Reader α) (src : List UInt8) : Except Error α := do
  let read : Reader (α × Option UInt8) := do
    let a ← r
    let n ← skipBlanks
    return (a, n)
  let ((a, n), c) ← read.run (Cursor.start src)
  match n with
  | some _ => throw (errorAt c.src (min c.src.length (c.index + 1)) .trailingCharacters)
  | none => return a

end ReplHost.Json
