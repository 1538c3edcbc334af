/-! # Characters and affixes

  Text in this library is handled as `List Char` wherever a rule walks it.
  This module holds the character class the library trims by, and the
  affix operations that name matching uses.

  - `isBlank c` is the Unicode `White_Space` property: the ASCII controls
    U+0009..U+000D, the space, U+0085, U+00A0, U+1680, U+2000..U+200A,
    U+2028, U+2029, U+202F, U+205F and U+3000.
  - `trim` drops blanks at both ends.
-/

namespace ReplHost.Text

/-- The Unicode `White_Space` property. -/
def isBlank (c : Char) : Bool :=
  let n := c.toNat
  (0x09 ≤ n && n ≤ 0x0D) || n == 0x20 || n == 0x85 || n == 0xA0 || n == 0x1680 ||
  (0x2000 ≤ n && n ≤ 0x200A) || n == 0x2028 || n == 0x2029 || n == 0x202F ||
  n == 0x205F || n == 0x3000

/-- Drops blanks at the front. -/
def trimFront (cs : List Char) : List Char := cs.dropWhile isBlank

/-- Drops blanks at the back. -/
def trimBack (cs : List Char) : List Char := (trimFront cs.reverse).reverse

/-- Drops blanks at both ends. -/
def trim (cs : List Char) : List Char := trimBack (trimFront cs)

/-- Drops blanks at both ends of a string. -/
def trimString (s : String) : String := String.ofList (trim s.toList)

/-- The rest of `xs` after the prefix `p`, when `xs` starts with `p`. -/
def stripPrefix? : List Char → List Char → Option (List Char)
  | [], xs => some xs
  | _ :: _, [] => none
  | p :: ps, x :: xs => if p = x then stripPrefix? ps xs else none

/-- What precedes the suffix `s` in `xs`, when `xs` ends with `s`. -/
def stripSuffix? (s xs : List Char) : Option (List Char) :=
  (stripPrefix? s.reverse xs.reverse).map List.reverse

theorem stripPrefix?_append (p xs : List Char) : stripPrefix? p (p ++ xs) = some xs := by
  induction p with
  | nil => rfl
  | cons c ps ih => simp [stripPrefix?, ih]

theorem eq_append_of_stripPrefix? {p xs r : List Char} (h : stripPrefix? p xs = some r) :
    xs = p ++ r := by
  induction p generalizing xs with
  | nil => cases h; rfl
  | cons c ps ih =>
    cases xs with
    | nil => cases h
    | cons x xs =>
      unfold stripPrefix? at h
      split at h
      · rename_i hc
        subst hc
        simp [ih h]
      · cases h

theorem stripPrefix?_eq_some_iff {p xs r : List Char} :
    stripPrefix? p xs = some r ↔ xs = p ++ r :=
  ⟨eq_append_of_stripPrefix?, fun h => h ▸ stripPrefix?_append p r⟩

end ReplHost.Text
