import ReplHost.Shell.Utilities

/-! # Quoting for the shell

  How the utilities write a text so that the shell would read it back as
  one word: `printf %q` does, and messages name files that way. A text
  that needs no quoting stays as it is (`shellQuoted`), unless quotes are
  wanted always (`alwaysQuoted`). A text with `'` in it and nothing that
  double quotes treat specially goes in double quotes; any other goes in
  single quotes, with `'\''` for a quote and `$'…'` pieces, in C escapes or
  octal, for characters that do not print.
-/

namespace ReplHost.Shell

/-- Characters that never need quoting. -/
def quoteSafe (c : Char) : Bool :=
  c.isAlphanum || "%+,-./:]_".contains c

/-- Whether a character does not print in the C locale. -/
def unprintable (c : Char) : Bool := c.toNat < 0x20 || c.toNat ≥ 0x7F

/-- Whether the character at place `i` of a text of `len` characters makes
    the text need quotes. -/
def forcesQuotes (len i : Nat) (c : Char) : Bool :=
  unprintable c || " !\"$&()*;<=>?[\\^\x60|\x27".contains c ||
    ("#~".contains c && i = 0) || ("\x7b\x7d".contains c && len = 1)

/-- Whether a character may stand in double quotes unchanged. -/
def doubleQuotable (len i : Nat) (c : Char) : Bool :=
  quoteSafe c || " @\x27".contains c || ("#~".contains c && i = 0) ||
    ("\x7b\x7d".contains c && len = 1)

/-- How a character that does not print is escaped inside `$'…'`. -/
def escapeOf (c : Char) : List Char :=
  match c with
  | '\x07' => ['a']
  | '\x08' => ['b']
  | '\x0c' => ['f']
  | '\n' => ['n']
  | '\r' => ['r']
  | '\t' => ['t']
  | '\x0b' => ['v']
  | _ =>
    let v := c.toNat % 256
    [Char.ofNat (48 + v / 64), Char.ofNat (48 + v / 8 % 8), Char.ofNat (48 + v % 8)]

/-- Text in single quotes: `'\''` for a quote, and characters that do not
    print in `$'…'` pieces. -/
def singleQuoted (cs : List Char) : List Char :=
  let step := fun (acc : List Char × Bool) (c : Char) =>
    let (out, inEscape) := acc
    if c = '\x27' then (out ++ ['\x27', '\\', '\x27', '\x27'], false)
    else if unprintable c then
      ((out ++ if inEscape then [] else ['\x27', '$', '\x27']) ++ '\\' :: escapeOf c, true)
    else ((out ++ if inEscape then ['\x27', '\x27'] else []) ++ [c], false)
  let (out, _) := cs.foldl step (['\x27'], false)
  out ++ ['\x27']

/-- Quotes a text for the shell: as it is when nothing in it needs
    quoting (unless `always`), in double quotes when it holds `'` and
    nothing that double quotes treat specially, and else in single quotes. -/
def quoteFor (always : Bool) (s : String) : String :=
  let cs := s.toList
  let places := cs.zipIdx
  if cs.isEmpty then "''"
  else if !always && !places.any (fun (c, i) => forcesQuotes cs.length i c) then s
  else if cs.contains '\x27' && places.all (fun (c, i) => doubleQuotable cs.length i c) then
    "\"" ++ s ++ "\""
  else String.ofList (singleQuoted cs)

/-- Quotes an argument for the shell when it needs it. -/
def shellQuoted (s : String) : String := quoteFor false s

/-- Quotes an argument for the shell always. -/
def alwaysQuoted (s : String) : String := quoteFor true s

end ReplHost.Shell
