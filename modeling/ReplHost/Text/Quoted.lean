import ReplHost.Text.Decimal
import ReplHost.Text.Spelled

/-! # Quoted text in diagnostics

  Diagnostics show a string between double quotes, so that blanks and control
  characters stay visible. Inside the quotes:

  - `"` and `\` are preceded by a backslash;
  - NUL, tab, carriage return and line feed are written `\0`, `\t`, `\r`, `\n`;
  - characters that are not printable or that would join the character before
    them (`spelledByCode`) are written `\u{h}`, with the fewest lowercase
    hexadecimal digits;
  - every other character stands for itself, the apostrophe included.

  `quote` writes that form; `hexLower` is the digit text it uses. Paths of the
  operating system are shown the same way except that the apostrophe is
  escaped too (`quotePath`).
-/

namespace ReplHost.Text

/-- Lowercase hexadecimal digits of `n`, with no leading zeros. -/
def hexLower (n : Nat) : String :=
  String.ofList ((Nat.toDigits 16 n).map Char.toLower)

/-- The written form of one character inside quotes. -/
def quoteChar (c : Char) : List Char :=
  if c = '\x00' then ['\\', '0']
  else if c = '\t' then ['\\', 't']
  else if c = '\r' then ['\\', 'r']
  else if c = '\n' then ['\\', 'n']
  else if c = '\\' then ['\\', '\\']
  else if c = '"' then ['\\', '"']
  else if spelledByCode c then ("\\u" ++ "\x7b" ++ hexLower c.toNat ++ "\x7d").toList
  else [c]

/-- A string between double quotes, as diagnostics show it. -/
def quote (s : String) : String :=
  String.ofList ('"' :: (s.toList.flatMap quoteChar ++ ['"']))

/-- A path between double quotes, as diagnostics show it: like `quote`,
    with the apostrophe escaped as well. -/
def quotePath (s : String) : String :=
  String.ofList ('"' :: (s.toList.flatMap (fun c => if c = '\'' then ['\\', '\''] else quoteChar c) ++ ['"']))

end ReplHost.Text
