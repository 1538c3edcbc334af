import ReplHost.Text.Binary64

/-! # Floating-point numbers as the C library reads and writes them

  Two formats are in use: binary64, the C `double` that the shell's own
  `printf` reads, and the x87 extended format, the `long double` that the
  `printf` and `seq` programs read. A format is its number of significand
  bits and the range of the exponent of its last bit; every operation below
  takes the format and rounds to it exactly, in `Nat` arithmetic.

  `FloatValue.read` reads a number the way `strtod` and `strtold` do:
  blanks, a sign, then `inf` or `infinity`, `nan` (with an optional
  parenthesised tag), a hexadecimal mantissa after `0x` with an optional
  binary exponent after `p`, or a decimal mantissa with an optional
  exponent after `e`. The value is the one of the format nearest to the
  exact one, ties to even; it is out of range when it overflows, or when it
  is below the normal numbers and not exact.

  `FloatValue.format` writes one the way `printf` does for `%f %e %g %a`
  and their capitals, in exact arithmetic: the decimal digits are those of
  the exact binary value, rounded half to even at the last one kept.

  - `%f` writes `ddd.ddd` with the precision (6 by default) as the number of
    digits after the point;
  - `%e` writes `d.ddde±xx`, the exponent with at least two digits;
  - `%g` takes `%e` when the exponent X of the rounded value is below -4 or
    not below the precision P (1 when it is 0), and `%f` with P-1-X digits
    otherwise, then drops trailing zeros of the fraction;
  - `%a` writes the significand in hexadecimal, a leading digit and then
    the fraction bits four at a time (13 digits for binary64, whose leading
    digit is its top bit; 15 for the extended format, whose leading digit
    holds its top four bits), as many as the value needs or the precision,
    then `p` and the binary exponent.

  Flag `#` keeps the point (and for `%g` the trailing zeros), `+` and space
  set the sign of values that are not negative, `-` pads on the right and
  `0` with zeros after the sign; infinities and NaNs are padded with blanks.

  Sums and products round the exact result once, as the hardware does in
  the nearest-even mode.
-/

namespace ReplHost

/-- A binary floating-point format: a significand of `digits` bits, and
    the exponent of its last bit, from the smallest subnormal values
    (`minExponent`) to the largest finite ones (`maxExponent`). -/
structure FloatFormat where
  digits : Nat
  minExponent : Int
  maxExponent : Int
  deriving DecidableEq, Repr

namespace FloatFormat

/-- IEEE 754 binary64, the C `double`. -/
def double : FloatFormat := ⟨53, -1074, 971⟩

/-- The x87 extended format, the C `long double` of the machine. -/
def extended : FloatFormat := ⟨64, -16445, 16320⟩

/-- The finite value of the format nearest to `num / den`, ties to even:
    its mantissa and exponent; `none` past the largest finite values. -/
def round (f : FloatFormat) (num den : Nat) : Option (Nat × Int) :=
  if num = 0 || den = 0 then some (0, f.minExponent)
  else
    let e := max (Binary64.floorLog2 num den - (f.digits - 1 : Nat)) f.minExponent
    let m := Binary64.scaledRound num den e
    let (m, e) := if m = Nat.pow 2 f.digits then (Nat.pow 2 (f.digits - 1), e + 1) else (m, e)
    if e > f.maxExponent then none else some (m, e)

/-- Whether a rounded finite value is below the normal numbers. -/
def subnormal (f : FloatFormat) (m : Nat) (e : Int) : Bool :=
  e = f.minExponent && m < Nat.pow 2 (f.digits - 1)

/-- How many hexadecimal digits `%a` writes after the point: the bits
    after the leading digit, four at a time. -/
def hexDigits (f : FloatFormat) : Nat := (f.digits - 1) / 4

end FloatFormat

/-- The absolute value of `mantissa · 2^exponent` as a ratio of naturals. -/
def ratioOf (m : Nat) (e : Int) : Nat × Nat :=
  if 0 ≤ e then (m * Nat.pow 2 e.toNat, 1) else (m, Nat.pow 2 (-e).toNat)

/-- A value of a floating-point format: a finite one,
    `(-1)^negative · mantissa · 2^exponent`, an infinity, or not a number,
    each with a sign. -/
inductive FloatValue where
  | finite (negative : Bool) (mantissa : Nat) (exponent : Int)
  | infinite (negative : Bool)
  | nan (negative : Bool)
  deriving DecidableEq, Repr

namespace FloatValue

/-- Zero with a sign. -/
def zero (f : FloatFormat) (negative : Bool) : FloatValue := .finite negative 0 f.minExponent

/-- The value of the format nearest to `num / den`, with a sign; an
    infinity past the largest finite values. -/
def ofRatio (f : FloatFormat) (negative : Bool) (num den : Nat) : FloatValue :=
  match f.round num den with
  | some (m, e) => .finite negative m e
  | none => .infinite negative

/-- The value of a natural number. -/
def ofNat (f : FloatFormat) (n : Nat) : FloatValue := ofRatio f false n 1

/-- Whether the sign is negative. -/
def negative : FloatValue → Bool
  | .finite n _ _ => n
  | .infinite n => n
  | .nan n => n

/-- Whether the value is not a number. -/
def isNaN : FloatValue → Bool
  | .nan _ => true
  | _ => false

/-- Whether the value is finite. -/
def isFinite : FloatValue → Bool
  | .finite _ _ _ => true
  | _ => false

/-- Whether the value is a zero of either sign. -/
def isZero : FloatValue → Bool
  | .finite _ m _ => m = 0
  | _ => false

/-- The exact value of a finite value, as a signed numerator over a
    positive denominator. -/
def toRatio? : FloatValue → Option (Int × Nat)
  | .finite n m e =>
    let (a, b) := ratioOf m e
    some (if n then -(a : Int) else a, b)
  | _ => none

/-- The value nearest to an exact signed ratio; a zero takes the sign
    given. -/
def ofExact (f : FloatFormat) (zeroNegative : Bool) (num : Int) (den : Nat) : FloatValue :=
  if num = 0 then zero f zeroNegative else ofRatio f (num < 0) num.natAbs den

/-- The rounded sum. -/
def add (f : FloatFormat) : FloatValue → FloatValue → FloatValue
  | .nan n, _ => .nan n
  | _, .nan n => .nan n
  | .infinite a, .infinite b => if a = b then .infinite a else .nan true
  | .infinite a, _ => .infinite a
  | _, .infinite b => .infinite b
  | x, y =>
    match x.toRatio?, y.toRatio? with
    | some (a, b), some (c, d) => ofExact f (x.negative && y.negative) (a * d + c * b) (b * d)
    | _, _ => .nan false

/-- The rounded product. -/
def mul (f : FloatFormat) : FloatValue → FloatValue → FloatValue
  | .nan n, _ => .nan n
  | _, .nan n => .nan n
  | x, y =>
    let sign := x.negative != y.negative
    match x.toRatio?, y.toRatio? with
    | some (a, b), some (c, d) => ofExact f sign (a * c) (b * d)
    | _, _ => if x.isZero || y.isZero then .nan true else .infinite sign

/-- Compares two values; `none` when one is not a number. -/
def compareTo : FloatValue → FloatValue → Option Ordering
  | .nan _, _ | _, .nan _ => none
  | .infinite a, .infinite b => some (if a = b then .eq else if a then .lt else .gt)
  | .infinite a, _ => some (if a then .lt else .gt)
  | _, .infinite b => some (if b then .gt else .lt)
  | x, y =>
    match x.toRatio?, y.toRatio? with
    | some (a, b), some (c, d) => some (compare (a * d) (c * b))
    | _, _ => none

/-- `x < y`, false when either is not a number. -/
def lt (x y : FloatValue) : Bool := x.compareTo y = some .lt

/-- `x == y`, false when either is not a number; the two zeros are
    equal. -/
def eq (x y : FloatValue) : Bool := x.compareTo y = some .eq

/-! ### Reading -/

/-- White space before a number. -/
def isSpace (c : Char) : Bool := c = ' ' || ('\x09' ≤ c && c ≤ '\x0d')

/-- The value of a hexadecimal digit. -/
def hexValue? (c : Char) : Option Nat :=
  if c.isDigit then some (c.toNat - 48)
  else if 'a' ≤ c && c ≤ 'f' then some (c.toNat - 87)
  else if 'A' ≤ c && c ≤ 'F' then some (c.toNat - 55)
  else none

/-- The value of digits in a base. -/
def digitsValue (base : Nat) (ds : List Nat) : Nat := ds.foldl (fun acc d => base * acc + d) 0

/-- Reads an exponent after a mantissa: one of `markers`, a sign and
    decimal digits. Without a digit nothing is taken. -/
def readExponent (markers : List Char) (cs : List Char) : Int × List Char :=
  match cs with
  | m :: rest =>
    if markers.contains m then
      let (neg, body) := match rest with
        | '-' :: r => (true, r)
        | '+' :: r => (false, r)
        | r => (false, r)
      let (ds, after) := body.span Char.isDigit
      if ds.isEmpty then (0, cs)
      else
        let v : Int := digitsValue 10 (ds.map (·.toNat - 48))
        (if neg then -v else v, after)
    else (0, cs)
  | [] => (0, [])

/-- The value nearest to `num / den` with a sign, and whether it is out of
    range: past the largest finite values, or below the normal numbers
    and not exact. -/
def ofRatioChecked (f : FloatFormat) (negative : Bool) (num den : Nat) : FloatValue × Bool :=
  match f.round num den with
  | none => (.infinite negative, true)
  | some (m, e) =>
    let (a, b) := ratioOf m e
    (.finite negative m e, f.subnormal m e && a * den ≠ num * b)

/-- `log₁₀ 2` to five places, to bound sizes without powers. -/
def log10Two : Nat := 30103

/-- The value nearest to `d · 10^k` with a sign, and whether it is out of
    range. Far beyond either end the answer is known without the powers. -/
def ofDecimal (f : FloatFormat) (negative : Bool) (d : Nat) (k : Int) : FloatValue × Bool :=
  if d = 0 then (zero f negative, false)
  else
    let size : Int := (Nat.toDigits 10 d).length + k
    let tooBig : Int := (f.maxExponent + f.digits) * log10Two / 100000 + 2
    let tooSmall : Int := -((1 - f.minExponent) * log10Two / 100000 + 1)
    if size > tooBig then (.infinite negative, true)
    else if size < tooSmall then (zero f negative, true)
    else if 0 ≤ k then ofRatioChecked f negative (d * Nat.pow 10 k.toNat) 1
    else ofRatioChecked f negative d (Nat.pow 10 (-k).toNat)

/-- The value nearest to `h · 2^k` with a sign, and whether it is out of
    range. -/
def ofBinary (f : FloatFormat) (negative : Bool) (h : Nat) (k : Int) : FloatValue × Bool :=
  if h = 0 then (zero f negative, false)
  else
    let size : Int := (Nat.log2 h + 1 : Nat) + k
    if size > f.maxExponent + f.digits + 2 then (.infinite negative, true)
    else if size < f.minExponent - 2 then (zero f negative, true)
    else if 0 ≤ k then ofRatioChecked f negative (h * Nat.pow 2 k.toNat) 1
    else ofRatioChecked f negative h (Nat.pow 2 (-k).toNat)

/-- Whether `cs` starts with `word`, in either case. -/
def startsWithWord (word : String) (cs : List Char) : Bool :=
  word.length ≤ cs.length && ((cs.take word.length).map Char.toLower) = word.toList

/-- Reads a hexadecimal mantissa and exponent after `0x`, if it has a
    digit. -/
def readHex (f : FloatFormat) (negative : Bool) (cs : List Char) :
    Option (FloatValue × Bool × List Char) :=
  let (whole, r1) := cs.span fun c => (hexValue? c).isSome
  let (frac, r2) := match r1 with
    | '.' :: r => r.span fun c => (hexValue? c).isSome
    | r => ([], r)
  if whole.isEmpty && frac.isEmpty then none
  else
    let rest := if r1.head? = some '.' then r2 else r1
    let (p, after) := readExponent ['p', 'P'] rest
    let h := digitsValue 16 ((whole ++ frac).filterMap hexValue?)
    let (v, range) := ofBinary f negative h (p - 4 * frac.length)
    some (v, range, after)

/-- Reads a decimal mantissa and exponent, if it has a digit. -/
def readDecimal (f : FloatFormat) (negative : Bool) (cs : List Char) :
    Option (FloatValue × Bool × List Char) :=
  let (whole, r1) := cs.span Char.isDigit
  let (frac, r2) := match r1 with
    | '.' :: r => r.span Char.isDigit
    | r => ([], r)
  if whole.isEmpty && frac.isEmpty then none
  else
    let rest := if r1.head? = some '.' then r2 else r1
    let (e, after) := readExponent ['e', 'E'] rest
    let d := digitsValue 10 ((whole ++ frac).map (·.toNat - 48))
    let (v, range) := ofDecimal f negative d (e - frac.length)
    some (v, range, after)

/-- Reads a number of format `f` at the front of `text`: its value,
    whether it is out of range, and the text after it; `none` when there
    is no number. -/
def read (f : FloatFormat) (text : List Char) : Option (FloatValue × Bool × List Char) :=
  let cs := text.dropWhile isSpace
  let (negative, body) := match cs with
    | '-' :: r => (true, r)
    | '+' :: r => (false, r)
    | r => (false, r)
  if startsWithWord "infinity" body then some (.infinite negative, false, body.drop 8)
  else if startsWithWord "inf" body then some (.infinite negative, false, body.drop 3)
  else if startsWithWord "nan" body then
    let after := body.drop 3
    let tagged := match after with
      | '(' :: r =>
        match r.span (fun (c : Char) => c.isAlphanum || c = '_') with
        | (_, ')' :: more) => some more
        | _ => none
      | _ => none
    some (.nan negative, false, tagged.getD after)
  else
    match body with
    | '0' :: x :: r =>
      if x = 'x' || x = 'X' then
        match readHex f negative r with
        | some v => some v
        | none => readDecimal f negative body
      else readDecimal f negative body
    | _ => readDecimal f negative body

/-! ### Writing -/

/-- `num / den` rounded to an integer, half to even. -/
def nearest (num den : Nat) : Nat := Binary64.roundHalfEven num den

/-- The digits of `num / den` in fixed notation with `prec` digits after
    the point: those before it (at least one) and those after. -/
def fixedDigits (num den : Nat) (prec : Nat) : List Char × List Char :=
  let ds := Nat.toDigits 10 (nearest (num * Nat.pow 10 prec) den)
  let ds := if ds.length ≤ prec then List.replicate (prec + 1 - ds.length) '0' ++ ds else ds
  (ds.take (ds.length - prec), ds.drop (ds.length - prec))

/-- The digits of `num / den` in scientific notation with `prec` digits
    after the point: the `prec + 1` digits and the decimal exponent. -/
def scientificDigits (num den : Nat) (prec : Nat) : List Char × Int :=
  if num = 0 then (List.replicate (prec + 1) '0', 0)
  else
    let e := Binary64.floorLog10 num den
    let shift : Int := prec - e
    let n := if 0 ≤ shift then nearest (num * Nat.pow 10 shift.toNat) den
      else nearest num (den * Nat.pow 10 (-shift).toNat)
    if n = Nat.pow 10 (prec + 1) then (Nat.toDigits 10 (n / 10), e + 1)
    else (Nat.toDigits 10 n, e)

/-- The exponent of scientific notation: a sign and at least two digits. -/
def exponentDigits (e : Int) : List Char :=
  let ds := Nat.toDigits 10 e.natAbs
  (if e < 0 then '-' else '+') :: (if ds.length < 2 then '0' :: ds else ds)

/-- Fixed notation. -/
def fixedText (num den : Nat) (prec : Nat) (alt : Bool) : List Char :=
  let (whole, frac) := fixedDigits num den prec
  whole ++ (if prec > 0 || alt then '.' :: frac else [])

/-- Scientific notation, with `mark` before the exponent. -/
def scientificText (num den : Nat) (prec : Nat) (alt : Bool) (mark : Char) : List Char :=
  let (ds, e) := scientificDigits num den prec
  match ds with
  | d :: frac => d :: (if prec > 0 || alt then '.' :: frac else []) ++ mark :: exponentDigits e
  | [] => []

/-- Drops the trailing zeros of a fraction, and the point when nothing is
    left after it. -/
def trimFraction (cs : List Char) : List Char :=
  if cs.contains '.' then
    let trimmed := (cs.reverse.dropWhile (· = '0')).reverse
    if trimmed.getLast? = some '.' then trimmed.dropLast else trimmed
  else cs

/-- The shortest notation: fixed or scientific by the exponent. -/
def generalText (num den : Nat) (precision : Nat) (alt : Bool) (mark : Char) : List Char :=
  let p := if precision = 0 then 1 else precision
  let (_, e) := scientificDigits num den (p - 1)
  if e < p && -4 ≤ e then
    let t := fixedText num den (p - 1 - e).toNat alt
    if alt then t else trimFraction t
  else
    let t := scientificText num den (p - 1) alt mark
    if alt then t
    else
      let (mantissa, exp) := t.span (· ≠ mark)
      trimFraction mantissa ++ exp

/-- The hexadecimal digits of a finite value `m · 2^e` of format `f`: the
    leading digit, the digits after the point (all of them without trailing
    zeros, or `precision` of them rounded half to even) and the binary
    exponent. -/
def hexParts (f : FloatFormat) (m : Nat) (e : Int) (precision : Option Nat) :
    Nat × List Nat × Int :=
  let count := f.hexDigits
  let bits := 4 * count
  let (lead, frac, exp) :=
    if m = 0 then (0, 0, (0 : Int)) else (m / Nat.pow 2 bits, m % Nat.pow 2 bits, e + bits)
  let digitsOf := fun (n width : Nat) =>
    let ds := (Nat.toDigits 16 n).map fun c => (hexValue? c).getD 0
    List.replicate (width - ds.length) 0 ++ ds
  match precision with
  | none =>
    let ds := digitsOf frac count
    (lead, (ds.reverse.dropWhile (· = 0)).reverse, exp)
  | some p =>
    if p ≥ count then (lead, digitsOf frac count ++ List.replicate (p - count) 0, exp)
    else
      let whole := lead * Nat.pow 16 count + frac
      let kept := nearest whole (Nat.pow 16 (count - p))
      let lead := kept / Nat.pow 16 p
      if lead ≥ 16 then (lead / 16, List.replicate p 0, exp + 4)
      else (lead, digitsOf (kept % Nat.pow 16 p) p, exp)

/-- Hexadecimal notation without the `0x`: the digits and the exponent. -/
def hexText (f : FloatFormat) (m : Nat) (e : Int) (precision : Option Nat) (alt upper : Bool) :
    List Char :=
  let (lead, ds, exp) := hexParts f m e precision
  let digit := fun (d : Nat) =>
    let c := (Nat.toDigits 16 d).headD '0'
    if upper then c.toUpper else c
  let expText := (if exp < 0 then '-' else '+') :: Nat.toDigits 10 exp.natAbs
  digit lead :: (if ds.isEmpty && !alt then [] else '.' :: ds.map digit) ++
    (if upper then 'P' else 'p') :: expText

/-- Writes a value of format `f` for conversion `conv` (one of
    `f F e E g G a A`) with the flags, field width and precision given. -/
def format (f : FloatFormat) (flags : List Char) (width : Option Nat) (precision : Option Nat)
    (conv : Char) (v : FloatValue) : String :=
  let upper := conv.isUpper
  let alt := flags.contains '#'
  let sign : List Char :=
    if v.negative then ['-'] else if flags.contains '+' then ['+']
    else if flags.contains ' ' then [' '] else []
  let lower := conv.toLower
  let (radixMark, body, numeric) : List Char × List Char × Bool := match v with
    | .infinite _ => ([], (if upper then "INF" else "inf").toList, false)
    | .nan _ => ([], (if upper then "NAN" else "nan").toList, false)
    | .finite _ m e =>
      let (num, den) := ratioOf m e
      let mark := if upper then 'E' else 'e'
      if lower = 'f' then ([], fixedText num den (precision.getD 6) alt, true)
      else if lower = 'e' then ([], scientificText num den (precision.getD 6) alt mark, true)
      else if lower = 'g' then ([], generalText num den (precision.getD 6) alt mark, true)
      else ((if upper then "0X" else "0x").toList, hexText f m e precision alt upper, true)
  let text := sign ++ radixMark ++ body
  let w := width.getD 0
  let out :=
    if text.length ≥ w then text
    else if flags.contains '-' then text ++ List.replicate (w - text.length) ' '
    else if flags.contains '0' && numeric then
      sign ++ radixMark ++ List.replicate (w - text.length) '0' ++ body
    else List.replicate (w - text.length) ' ' ++ text
  String.ofList out

end FloatValue

end ReplHost
