import ReplHost.Text.Decimal

/-! # Binary64 numbers in exact arithmetic

  JSON numbers that are neither unsigned nor negative 64-bit integers are read
  as IEEE 754 binary64 values, and diagnostics print them back. This module
  does both in exact `Nat` arithmetic, with no hardware floats:

  - `Binary64.ofRatio` rounds a non-negative rational to the nearest binary64,
    ties to even, with subnormals; it answers `none` past the largest finite
    value. Products and quotients of two values round the same way.
  - `Binary64.shortest` finds the fewest significant digits that read back as
    the value: for 1, 2, … digits it tries the value's two neighbours on that
    decimal grid, keeps those inside the rounding interval (ends included iff
    the mantissa is even), and of two takes the nearer (the even one on a tie).
  - `Binary64.render` lays those digits out: positionally with `.0` when the
    decimal point falls within the first 16 digits, with leading zeros down
    to `0.0000d`, and otherwise as `d.ddde±x`.
-/

namespace ReplHost

/-- A finite binary64 value: `(-1)^negative · mantissa · 2^exponent`, with the
    mantissa below 2^53. -/
structure Binary64 where
  /-- The sign. -/
  negative : Bool
  /-- The integer mantissa. -/
  mantissa : Nat
  /-- The binary exponent of the mantissa's last bit. -/
  exponent : Int
  deriving DecidableEq, Repr

namespace Binary64

/-- The exponent of the smallest subnormal. -/
def minExponent : Int := -1074

/-- The exponent of the largest finite values. -/
def maxExponent : Int := 971

/-- `2^k` for an integer `k ≥ 0`. -/
def pow2 (k : Int) : Nat := Nat.pow 2 k.toNat

/-- The integer nearest to `num / den`, ties to even. -/
def roundHalfEven (num den : Nat) : Nat :=
  let q := num / den
  let r := num % den
  if 2 * r > den || (2 * r == den && q % 2 == 1) then q + 1 else q

/-- `⌊log₂ (num / den)⌋` for positive `num` and `den`. -/
def floorLog2 (num den : Nat) : Int :=
  let k : Int := (Nat.log2 num : Int) - (Nat.log2 den : Int)
  let reaches : Bool := if 0 ≤ k then den * pow2 k ≤ num else den ≤ num * pow2 (-k)
  if reaches then k else k - 1

/-- The integer nearest to `num / den · 2^(-e)`, ties to even. -/
def scaledRound (num den : Nat) (e : Int) : Nat :=
  if e ≤ 0 then roundHalfEven (num * pow2 (-e)) den else roundHalfEven num (den * pow2 e)

/-- The binary64 nearest to `num / den` with the given sign, or `none` when
    that is past the largest finite value. -/
def ofRatio (negative : Bool) (num den : Nat) : Option Binary64 :=
  if num = 0 || den = 0 then some ⟨negative, 0, minExponent⟩
  else
    let e := max (floorLog2 num den - 52) minExponent
    let m := scaledRound num den e
    let (m, e) := if m = Nat.pow 2 53 then (Nat.pow 2 52, e + 1) else (m, e)
    if e > maxExponent then none else some ⟨negative, m, e⟩

/-- The value as a ratio of naturals. -/
def ratio (x : Binary64) : Nat × Nat :=
  if 0 ≤ x.exponent then (x.mantissa * pow2 x.exponent, 1)
  else (x.mantissa, pow2 (-x.exponent))

/-- The binary64 nearest to a natural number. -/
def ofNat (n : Nat) : Option Binary64 := ofRatio false n 1

/-- Whether the value is zero (of either sign). -/
def isZero (x : Binary64) : Bool := x.mantissa == 0

/-- The value with its sign flipped. -/
def neg (x : Binary64) : Binary64 := { x with negative := !x.negative }

/-- The rounded product. -/
def mul (x y : Binary64) : Option Binary64 :=
  let (a, b) := x.ratio
  let (c, d) := y.ratio
  ofRatio (x.negative != y.negative) (a * c) (b * d)

/-- The rounded quotient, for a divisor that is not zero. -/
def div (x y : Binary64) : Option Binary64 :=
  let (a, b) := x.ratio
  let (c, d) := y.ratio
  ofRatio (x.negative != y.negative) (a * d) (b * c)

/-- `10^k` rounded to binary64. -/
def pow10 (k : Nat) : Option Binary64 := ofRatio false (Nat.pow 10 k) 1

/-! ### Shortest decimal digits -/

/-- Compares `c · 10^d` with `b · 2^s`. -/
def cmpScaled (c : Nat) (d : Int) (b : Nat) (s : Int) : Ordering :=
  let lhs := c * Nat.pow 10 d.toNat * pow2 (-s)
  let rhs := b * pow2 s * Nat.pow 10 (-d).toNat
  compare lhs rhs

/-- `⌊log₁₀ (num / den)⌋` for positive `num` and `den`. -/
def floorLog10 (num den : Nat) : Int :=
  let guess : Int := ((Nat.log2 num : Int) - (Nat.log2 den : Int)) * 30103 / 100000
  let atLeast (t : Int) : Bool :=
    if 0 ≤ t then den * Nat.pow 10 t.toNat ≤ num else den ≤ num * Nat.pow 10 (-t).toNat
  if !atLeast guess then guess - 1
  else if atLeast (guess + 2) then guess + 2
  else if atLeast (guess + 1) then guess + 1
  else guess

/-- Strips trailing zeros: `c · 10^d` as digits without trailing zeros. -/
def stripZeros (c : Nat) (d : Int) : (fuel : Nat) → Nat × Int
  | 0 => (c, d)
  | fuel + 1 => if c ≠ 0 && c % 10 == 0 then stripZeros (c / 10) (d + 1) fuel else (c, d)

/-- The shortest digits of a positive finite value: `(c, d)` with value
    `c · 10^d` reading back as `x`, `c` without trailing zeros. -/
def shortest (x : Binary64) : Nat × Int :=
  let m := x.mantissa
  let e := x.exponent
  -- bounds of the rounding interval, in units of 2^(e-2)
  let low := if m = Nat.pow 2 52 && e > minExponent then 4 * m - 1 else 4 * m - 2
  let high := 4 * m + 2
  let inclusive := m % 2 == 0
  let (num, den) := x.ratio
  let t := floorLog10 num den
  let inside (c : Nat) (d : Int) : Bool :=
    let lo := cmpScaled c d low (e - 2)
    let hi := cmpScaled c d high (e - 2)
    if inclusive then lo != .lt && hi != .gt else lo == .gt && hi == .lt
  let rec search (n : Nat) : (fuel : Nat) → Nat × Int
    | 0 => (m, e)
    | fuel + 1 =>
      let d : Int := t - (n - 1 : Nat)
      let cLo := if 0 ≤ d then num / (den * Nat.pow 10 d.toNat) else num * Nat.pow 10 (-d).toNat / den
      let cHi := cLo + 1
      let loIn := inside cLo d
      let hiIn := inside cHi d
      if loIn || hiIn then
        let c :=
          if loIn && hiIn then
            -- nearer of the two: compare 2v with (cLo + cHi) · 10^d
            match cmpScaled (cLo + cHi) d (2 * m) e with
            | .gt => cLo
            | .lt => cHi
            | .eq => if cLo % 2 == 0 then cLo else cHi
          else if loIn then cLo else cHi
        stripZeros c d 20
      else search (n + 1) fuel
  search 1 17

/-- How the exponent of scientific notation is written. -/
def exponentText (k : Int) : String :=
  if k < 0 then "e-" ++ Decimal.render k.natAbs else "e+" ++ Decimal.render k.toNat

/-- Lays out digits `ds` (no trailing zeros) with value `ds · 10^k`. -/
def layout (ds : List Char) (k : Int) : String :=
  let len : Int := ds.length
  let kk := len + k
  if 0 ≤ k && kk ≤ 16 then
    String.ofList (ds ++ List.replicate k.toNat '0') ++ ".0"
  else if 0 < kk && kk ≤ 16 then
    String.ofList (ds.take kk.toNat ++ '.' :: ds.drop kk.toNat)
  else if -5 < kk && kk ≤ 0 then
    "0." ++ String.ofList (List.replicate (-kk).toNat '0' ++ ds)
  else
    match ds with
    | [d] => String.ofList [d] ++ exponentText (kk - 1)
    | d :: rest => String.ofList (d :: '.' :: rest) ++ exponentText (kk - 1)
    | [] => "0.0"

/-- The shortest text of a finite value. -/
def render (x : Binary64) : String :=
  let sign := if x.negative then "-" else ""
  if x.isZero then sign ++ "0.0"
  else
    let (c, k) := x.shortest
    sign ++ layout (Nat.toDigits 10 c) k

end Binary64

end ReplHost
