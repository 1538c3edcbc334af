import ReplHost.Text.Binary64
import ReplHost.Text.Quoted

/-! # Errors of the JSON reader

  Reading a configuration file fails with a `Json.Fault` at a position. A
  fault is either a syntax fault, or a value of the wrong type or out of range
  for the field it fills, or a field given twice. Positions count lines from 1
  and columns in bytes from the start of the line; the message is the fault's
  text followed by ` at line L column C`.

  A value met where another type was expected is described by `Json.Found`:
  `null`, a boolean, an integer, a floating-point number (in its shortest
  form), a quoted string, a sequence or a map.
-/

namespace ReplHost.Json

/-- What was found where a value of another type was expected. -/
inductive Found where
  | null
  | bool (b : Bool)
  | unsigned (n : Nat)
  | signed (i : Int)
  | float (x : Binary64)
  | string (s : String)
  | sequence
  | map
  deriving DecidableEq, Repr

/-- How a found value is described. -/
def Found.describe : Found → String
  | .null => "null"
  | .bool b => "boolean `" ++ (if b then "true" else "false") ++ "`"
  | .unsigned n => "integer `" ++ Decimal.render n ++ "`"
  | .signed i => "integer `" ++ Decimal.renderInt i ++ "`"
  | .float x => "floating point `" ++ x.render ++ "`"
  | .string s => "string " ++ Text.quote s
  | .sequence => "sequence"
  | .map => "map"

/-- Why reading stopped. -/
inductive Fault where
  | eofList
  | eofObject
  | eofString
  | eofValue
  | expectedColon
  | expectedListCommaOrEnd
  | expectedObjectCommaOrEnd
  | expectedIdent
  | expectedValue
  | invalidEscape
  | invalidNumber
  | numberOutOfRange
  | controlCharacter
  | keyMustBeString
  | loneLeadingSurrogate
  | trailingComma
  | trailingCharacters
  | unexpectedEndOfHexEscape
  /-- A value of the wrong type for what was expected. -/
  | invalidType (found : Found) (expected : String)
  /-- A value of the right type but outside the expected range. -/
  | invalidValue (found : Found) (expected : String)
  /-- A field given twice. -/
  | duplicateField (name : String)
  deriving DecidableEq, Repr

/-- The text of a fault. -/
def Fault.text : Fault → String
  | .eofList => "EOF while parsing a list"
  | .eofObject => "EOF while parsing an object"
  | .eofString => "EOF while parsing a string"
  | .eofValue => "EOF while parsing a value"
  | .expectedColon => "expected `:`"
  | .expectedListCommaOrEnd => "expected `,` or `]`"
  | .expectedObjectCommaOrEnd => "expected `,` or `\x7d`"
  | .expectedIdent => "expected ident"
  | .expectedValue => "expected value"
  | .invalidEscape => "invalid escape"
  | .invalidNumber => "invalid number"
  | .numberOutOfRange => "number out of range"
  | .controlCharacter => "control character (\\u0000-\\u001F) found while parsing a string"
  | .keyMustBeString => "key must be a string"
  | .loneLeadingSurrogate => "lone leading surrogate in hex escape"
  | .trailingComma => "trailing comma"
  | .trailingCharacters => "trailing characters"
  | .unexpectedEndOfHexEscape => "unexpected end of hex escape"
  | .invalidType f e => "invalid type: " ++ f.describe ++ ", expected " ++ e
  | .invalidValue f e => "invalid value: " ++ f.describe ++ ", expected " ++ e
  | .duplicateField n => "duplicate field `" ++ n ++ "`"

/-- A fault with the place it was found. -/
structure Error where
  /-- What went wrong. -/
  fault : Fault
  /-- The line, from 1. -/
  line : Nat
  /-- The byte column within the line, from 0. -/
  column : Nat
  deriving DecidableEq, Repr

/-- The message of an error. -/
def Error.message (e : Error) : String :=
  e.fault.text ++ " at line " ++ Decimal.render e.line ++ " column " ++ Decimal.render e.column

/-- The line and column of byte offset `i` in `src`. -/
def positionOf (src : List UInt8) (i : Nat) : Nat × Nat :=
  let before := src.take i
  let lineStart := before.length - (before.reverse.takeWhile (· ≠ 0x0A)).length
  (1 + before.count 0x0A, i - lineStart)

end ReplHost.Json
