import ReplHost.Text.Utf8
import ReplHost.Text.Decimal

/-! # Writing JSON text

  The compact JSON form of values, as bytes, with no blanks between tokens.
  A string is quoted. A quote, a backslash and every control character are
  escaped: backspace, tab, line feed, form feed and carriage return by their
  short escapes, the other controls as `\u00` and two lower-case hex digits.
  Every other character is written as its UTF-8 bytes. A natural number is
  written in decimal; arrays and objects list their items separated by
  commas, an object's members as a key, a colon and the value.
-/

namespace ReplHost.Json

/-- A lower-case hexadecimal digit. -/
def hexDigit (n : Nat) : UInt8 := if n < 10 then (0x30 + n).toUInt8 else (0x57 + n).toUInt8

/-- The bytes that stand for a character inside a string. -/
def escapeChar (c : Char) : List UInt8 :=
  if c = '"' then [0x5C, 0x22]
  else if c = '\\' then [0x5C, 0x5C]
  else if c = '\x08' then [0x5C, 0x62]
  else if c = '\t' then [0x5C, 0x74]
  else if c = '\n' then [0x5C, 0x6E]
  else if c = '\x0c' then [0x5C, 0x66]
  else if c = '\r' then [0x5C, 0x72]
  else if c.toNat < 0x20 then [0x5C, 0x75, 0x30, 0x30, hexDigit (c.toNat / 16), hexDigit (c.toNat % 16)]
  else Utf8.encodeChar c

/-- A string, quoted and escaped. -/
def writeString (s : String) : List UInt8 := 0x22 :: s.toList.flatMap escapeChar ++ [0x22]

/-- A natural number, in decimal. -/
def writeNat (n : Nat) : List UInt8 := Utf8.encode (Decimal.render n)

/-- A boolean. -/
def writeBool : Bool → List UInt8
  | true => [0x74, 0x72, 0x75, 0x65]
  | false => [0x66, 0x61, 0x6C, 0x73, 0x65]

/-- `null`. -/
def writeNull : List UInt8 := [0x6E, 0x75, 0x6C, 0x6C]

/-- A value, or `null` for none. -/
def writeOptional (write : α → List UInt8) : Option α → List UInt8
  | some a => write a
  | none => writeNull

/-- Items separated by commas. -/
def commaSeparated : List (List UInt8) → List UInt8
  | [] => []
  | [x] => x
  | x :: xs => x ++ 0x2C :: commaSeparated xs

/-- An array of written values. -/
def writeArray (items : List (List UInt8)) : List UInt8 := 0x5B :: commaSeparated items ++ [0x5D]

/-- An object member: its key, a colon, and its written value. -/
def writeMember (m : String × List UInt8) : List UInt8 := writeString m.1 ++ 0x3A :: m.2

/-- An object of keys and written values, in the order given. -/
def writeObject (members : List (String × List UInt8)) : List UInt8 :=
  0x7B :: commaSeparated (members.map writeMember) ++ [0x7D]

end ReplHost.Json
