import ReplHost.Text.Decimal
import ReplHost.Text.Chars

/-! # Display names of consoles

  A new console is named after a base title. The first one takes the base
  itself; later ones take `base (n)`, where `n` is one above the largest index
  already in use. The base itself counts as index 1, and `base (k)` counts as
  index `k` when `k` reads as an unsigned 64-bit word (`Decimal.readWord?`).
  Names that fit neither form are ignored. The next index saturates at the
  largest word, so at that point the new name repeats an existing one.
-/

namespace ReplHost.Title

open ReplHost.Text

/-- The index a name claims under `base`, if it claims one. -/
def indexOf? (base name : String) : Option Nat := do
  let rest ← stripPrefix? base.toList name.toList
  if rest = [] then
    some 1
  else
    let inner ← stripPrefix? [' ', '('] rest
    let digits ← stripSuffix? [')'] inner
    Decimal.readWord? (String.ofList digits)

/-- The largest index claimed among `names`. -/
def maxIndex? (base : String) (names : List String) : Option Nat :=
  names.foldl (fun best name =>
    match indexOf? base name, best with
    | some k, some m => some (max k m)
    | some k, none => some k
    | none, b => b) none

/-- The name written for index `n`. -/
def numbered (base : String) (n : Nat) : String :=
  base ++ " (" ++ Decimal.render n ++ ")"

/-- The display name for a new console, given the names already in use. -/
def next (base : String) (names : List String) : String :=
  match maxIndex? base names with
  | some m => numbered base (Decimal.succSat m)
  | none => base

end ReplHost.Title
