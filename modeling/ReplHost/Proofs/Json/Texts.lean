import ReplHost.Json.Record
import ReplHost.Json.Writer

/-! # JSON texts

  The texts a JSON reader has to take (RFC 8259), as predicates on bytes:
  blanks between tokens (§2), string literals with every spelling of each
  character (§7), numbers (§6), and values, arrays and objects (§§3–5).

  A string literal is read in one of two ways. `StringText bytes s` says the
  literal stands for the string `s`: each character is written as itself,
  as a two-character escape, as a `\u` escape, or, beyond the basic plane,
  as the two `\u` escapes of its surrogate pair. `RawString` says only that
  the literal is well formed, any `\u` escape allowed, which is all a reader
  checks of a value it skips.

  Arrays and objects are written `enclosed`: blanks alone between the
  brackets, or items separated by commas, each item carrying the blanks
  around it (`Padded`). An object's member is a padded name literal, a
  colon and a padded value (`MemberBytes`).
-/

namespace ReplHost.Json

variable {β : Type}

/-! ### Blanks and digits -/

/-- Blanks between tokens: spaces, tabs, line feeds and carriage returns. -/
def Blanks (ws : List UInt8) : Prop := ∀ b ∈ ws, isBlank b = true

/-- What may follow a value: nothing, a blank, a comma, or a closing
    bracket or brace. -/
def Delimited (t : List UInt8) : Prop :=
  t = [] ∨ ∃ b r, t = b :: r ∧ (isBlank b = true ∨ b = 0x2C ∨ b = 0x5D ∨ b = 0x7D)

/-- A hexadecimal digit, of either case, and its value. -/
def HexDigit (b : UInt8) (d : Nat) : Prop :=
  (0x30 ≤ b.toNat ∧ b.toNat ≤ 0x39 ∧ d = b.toNat - 0x30) ∨
  (0x61 ≤ b.toNat ∧ b.toNat ≤ 0x66 ∧ d = b.toNat - 0x57) ∨
  (0x41 ≤ b.toNat ∧ b.toNat ≤ 0x46 ∧ d = b.toNat - 0x37)

/-- Four hexadecimal digits spelling `n`, the most significant first. -/
def HexQuad (n : Nat) (ds : List UInt8) : Prop :=
  ∃ a b c d w x y z, ds = [a, b, c, d] ∧ HexDigit a w ∧ HexDigit b x ∧ HexDigit c y ∧ HexDigit d z ∧
    n = ((w * 16 + x) * 16 + y) * 16 + z

/-! ### String literals -/

/-- The characters with a two-character escape, and the letter after the
    backslash. -/
def shortEscapes : List (Char × UInt8) :=
  [('"', 0x22), ('\\', 0x5C), ('/', 0x2F), ('\x08', 0x62), ('\x0c', 0x66), ('\n', 0x6E), ('\r', 0x72),
    ('\t', 0x74)]

/-- How one character may be written inside a string literal. -/
inductive CharText : Char → List UInt8 → Prop
  /-- As itself, in UTF-8: any character but a control character, the
      quote and the backslash. -/
  | plain {c : Char} : 0x20 ≤ c.toNat → c ≠ '"' → c ≠ '\\' → CharText c (Utf8.encodeChar c)
  /-- A backslash and a letter. -/
  | short {c : Char} {b : UInt8} : (c, b) ∈ shortEscapes → CharText c [0x5C, b]
  /-- `\u` and the code point of a character of the basic plane. -/
  | unit {c : Char} {ds : List UInt8} : c.toNat < 0x10000 → HexQuad c.toNat ds →
      CharText c (0x5C :: 0x75 :: ds)
  /-- `\u` twice, with the two halves of the surrogate pair of a character
      beyond the basic plane. -/
  | pair {c : Char} {hi lo : List UInt8} : 0x10000 ≤ c.toNat →
      HexQuad (0xD800 + (c.toNat - 0x10000) / 0x400) hi → HexQuad (0xDC00 + (c.toNat - 0x10000) % 0x400) lo →
      CharText c (0x5C :: 0x75 :: hi ++ 0x5C :: 0x75 :: lo)

/-- The bytes between the quotes of a literal, spelling the characters `cs`. -/
inductive CharsText : List Char → List UInt8 → Prop
  | nil : CharsText [] []
  | cons {c : Char} {cs : List Char} {x body : List UInt8} : CharText c x → CharsText cs body →
      CharsText (c :: cs) (x ++ body)

/-- A string literal standing for `s`. -/
def StringText (bytes : List UInt8) (s : String) : Prop :=
  ∃ body, CharsText s.toList body ∧ bytes = 0x22 :: body ++ [0x22]

/-- One piece of a well-formed string literal: a character as itself, a
    two-character escape, or `\u` and any four hexadecimal digits. -/
inductive RawPiece : List UInt8 → Prop
  | plain {c : Char} : 0x20 ≤ c.toNat → c ≠ '"' → c ≠ '\\' → RawPiece (Utf8.encodeChar c)
  | short {c : Char} {b : UInt8} : (c, b) ∈ shortEscapes → RawPiece [0x5C, b]
  | unit {n : Nat} {ds : List UInt8} : HexQuad n ds → RawPiece (0x5C :: 0x75 :: ds)

/-- The bytes between the quotes of a well-formed string literal. -/
def RawString (body : List UInt8) : Prop :=
  ∃ pieces : List (List UInt8), (∀ p ∈ pieces, RawPiece p) ∧ body = pieces.flatten

/-! ### Numbers -/

/-- Decimal digits, at least one. -/
def SomeDigits (ds : List UInt8) : Prop := ds ≠ [] ∧ ∀ d ∈ ds, isDigit d = true

/-- The integer part of a number: `0`, or a digit from 1 to 9 and any
    digits after it. -/
def IntPart (ds : List UInt8) : Prop :=
  ds = [0x30] ∨
    ∃ d rest, ds = d :: rest ∧ 0x31 ≤ d.toNat ∧ d.toNat ≤ 0x39 ∧ ∀ x ∈ rest, isDigit x = true

/-- A fraction: nothing, or a point and digits. -/
def FracPart (f : List UInt8) : Prop := f = [] ∨ ∃ ds, f = 0x2E :: ds ∧ SomeDigits ds

/-- An exponent: nothing, or `e` or `E`, a sign or none, and digits. -/
def ExpPart (e : List UInt8) : Prop :=
  e = [] ∨ ∃ m s ds, e = m :: s ++ ds ∧ (m = 0x65 ∨ m = 0x45) ∧ (s = [] ∨ s = [0x2B] ∨ s = [0x2D]) ∧
    SomeDigits ds

/-- A number: a minus sign or none, an integer part, a fraction and an
    exponent. -/
def NumberText (bytes : List UInt8) : Prop :=
  ∃ sign int frac exp, bytes = sign ++ int ++ frac ++ exp ∧ (sign = [] ∨ sign = [0x2D]) ∧ IntPart int ∧
    FracPart frac ∧ ExpPart exp

/-- The value of decimal digits. -/
def digitsValue (ds : List UInt8) : Nat := ds.foldl (fun n d => 10 * n + (d.toNat - 0x30)) 0

/-- A number with neither sign, fraction nor exponent, standing for `n`. -/
def IntegerText (bytes : List UInt8) (n : Nat) : Prop := IntPart bytes ∧ n = digitsValue bytes

/-! ### Arrays, objects and values -/

/-- Bytes with blanks before and after them. -/
structure Padded where
  before : List UInt8
  body : List UInt8
  after : List UInt8

/-- The bytes, with their blanks. -/
def Padded.bytes (p : Padded) : List UInt8 := p.before ++ p.body ++ p.after

/-- The bytes around the body are blanks. -/
def Padded.Blank (p : Padded) : Prop := Blanks p.before ∧ Blanks p.after

/-- A member of an object as written: the name's literal and the value,
    each with blanks around it, and a colon between. -/
structure MemberBytes where
  name : Padded
  value : Padded

/-- The bytes of the member. -/
def MemberBytes.bytes (m : MemberBytes) : List UInt8 := m.name.bytes ++ 0x3A :: m.value.bytes

/-- The blanks around the name and the value are blanks. -/
def MemberBytes.Blank (m : MemberBytes) : Prop := m.name.Blank ∧ m.value.Blank

/-- An array or an object as written: blanks alone between the brackets, or
    the items separated by commas. -/
def enclosed (opening closing : UInt8) (ws : List UInt8) (items : List (List UInt8)) : List UInt8 :=
  opening :: (if items = [] then ws else commaSeparated items) ++ [closing]

/-- `null`. -/
def nullWord : List UInt8 := [0x6E, 0x75, 0x6C, 0x6C]

/-- `true` or `false`. -/
def boolWord (b : Bool) : List UInt8 := if b then [0x74, 0x72, 0x75, 0x65] else [0x66, 0x61, 0x6C, 0x73, 0x65]

/-- A JSON value, as written; what it stands for is not kept. -/
inductive ValueText : List UInt8 → Prop
  | null : ValueText nullWord
  | bool (b : Bool) : ValueText (boolWord b)
  | number {bs : List UInt8} : NumberText bs → ValueText bs
  | string {body : List UInt8} : RawString body → ValueText (0x22 :: body ++ [0x22])
  | array {ws : List UInt8} {items : List Padded} : Blanks ws → (∀ p ∈ items, p.Blank) →
      (∀ p ∈ items, ValueText p.body) → ValueText (enclosed 0x5B 0x5D ws (items.map Padded.bytes))
  | object {ws : List UInt8} {members : List MemberBytes} : Blanks ws → (∀ m ∈ members, m.Blank) →
      (∀ m ∈ members, ∃ body, RawString body ∧ m.name.body = 0x22 :: body ++ [0x22]) →
      (∀ m ∈ members, ValueText m.value.body) → ValueText (enclosed 0x7B 0x7D ws (members.map MemberBytes.bytes))

/-! ### Typed values -/

/-- `true` for true and `false` for false. -/
def BoolText (bytes : List UInt8) (b : Bool) : Prop := bytes = boolWord b

/-- A number in `0 .. bound`, written with neither sign, fraction nor
    exponent. -/
def WordText (bound : Nat) (bytes : List UInt8) (n : Nat) : Prop := IntegerText bytes n ∧ n ≤ bound

/-- `null` for none, or a text of the value. -/
def OptionText (T : List UInt8 → β → Prop) (bytes : List UInt8) : Option β → Prop
  | none => bytes = nullWord
  | some v => T bytes v

/-- An array of texts of the values `vs`, in order. -/
def ArrayText (T : List UInt8 → β → Prop) (bytes : List UInt8) (vs : List β) : Prop :=
  ∃ (ws : List UInt8) (items : List (Padded × β)), Blanks ws ∧ (∀ x ∈ items, x.1.Blank ∧ T x.1.body x.2) ∧
    vs = items.map Prod.snd ∧ bytes = enclosed 0x5B 0x5D ws (items.map (·.1.bytes))

/-- Sets `k` to `v` in an association list of strings, adding it last when
    absent. -/
def setMember (m : List (String × String)) (kv : String × String) : List (String × String) :=
  assocSet kv.1 kv.2 m

/-- An object of string members, read as a map: each member sets its name
    to its string, a later member replacing an earlier one of the same name. -/
def MapText (bytes : List UInt8) (m : List (String × String)) : Prop :=
  ∃ (ws : List UInt8) (members : List (MemberBytes × String × String)), Blanks ws ∧
    (∀ x ∈ members, x.1.Blank ∧ StringText x.1.name.body x.2.1 ∧ StringText x.1.value.body x.2.2) ∧
    m = (members.map Prod.snd).foldl setMember [] ∧ bytes = enclosed 0x7B 0x7D ws (members.map (·.1.bytes))

/-- A JSON text: a value of `T`, with blanks before and after it. -/
def DocumentText (T : List UInt8 → β → Prop) (bytes : List UInt8) (v : β) : Prop :=
  ∃ p : Padded, p.Blank ∧ T p.body v ∧ bytes = p.bytes

end ReplHost.Json
