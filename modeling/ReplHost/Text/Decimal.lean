/-! # Decimal numerals of unsigned 64-bit counters

  Display names and configuration values carry unsigned 64-bit counters.
  This module reads and writes their decimal text:

  - `Decimal.readWord?` accepts an optional `+`, then one or more ASCII
    digits whose value fits in 64 bits; leading zeros are allowed.
  - `Decimal.render` writes the shortest decimal numeral of a natural number.
  - `Decimal.succSat` is the successor that stops at the largest word.
-/

namespace ReplHost.Decimal

/-- The largest value of an unsigned 64-bit word. -/
def wordMax : Nat := Nat.pow 2 64 - 1

/-- The value of an ASCII digit. -/
def digitValue (c : Char) : Nat := c.toNat - '0'.toNat

/-- The value of a list of digits, most significant first. -/
def valueOf (ds : List Char) : Nat :=
  ds.foldl (fun acc c => 10 * acc + digitValue c) 0

/-- The digits of an unsigned word, without sign: nonempty, ASCII digits only,
    and a value that fits in 64 bits. -/
def readDigits? (ds : List Char) : Option Nat :=
  if ds ≠ [] ∧ ds.all Char.isDigit ∧ valueOf ds ≤ wordMax then some (valueOf ds) else none

/-- Reads an unsigned 64-bit word: an optional `+` and then its digits. -/
def readWord? (s : String) : Option Nat :=
  match s.toList with
  | '+' :: ds => readDigits? ds
  | ds => readDigits? ds

/-- The decimal numeral of `n`. -/
def render (n : Nat) : String := String.ofList (Nat.toDigits 10 n)

/-- The decimal numeral of an integer, with a leading `-` when negative. -/
def renderInt (i : Int) : String :=
  if i < 0 then "-" ++ render i.natAbs else render i.toNat

/-- The successor of a word, saturating at `wordMax`. -/
def succSat (n : Nat) : Nat := min (n + 1) wordMax

theorem readDigits?_le {ds : List Char} {n : Nat} (h : readDigits? ds = some n) :
    n ≤ wordMax := by
  unfold readDigits? at h
  split at h
  · rename_i hc
    cases h
    exact hc.2.2
  · cases h

theorem readWord?_le {s : String} {n : Nat} (h : readWord? s = some n) : n ≤ wordMax := by
  unfold readWord? at h
  split at h <;> exact readDigits?_le h

end ReplHost.Decimal
