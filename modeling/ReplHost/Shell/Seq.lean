import ReplHost.Shell.Utilities

/-! # The `seq` utility

  `seq [OPTION]… [FIRST [STEP]] LAST` prints the numbers from FIRST (one
  when not given) by STEP (one) while they do not pass LAST, joined by the
  separator (`-s`, a line feed by default) and ended by a line feed.

  - Operands made of decimal digits only are counted exactly, as integers
    of any size, when nothing asks for a format: no `-w`, no `-f`, and a
    separator of one character.
  - Any other operands are read as `long double` values, and the numbers
    are `FIRST + i · STEP`, rounded after the product and after the sum.
    They are written with as many decimals as FIRST or STEP has (`%.Nf`),
    zero-padded to the widest of FIRST and LAST with `-w`, or with `%g`
    when an operand is hexadecimal with a point or a binary exponent, or
    with the format `-f` gives: text around one floating-point
    conversion.
  - The number just past LAST is also printed when it prints as LAST and
    not as the number before it, so that rounding does not lose the end.

  An option ends at the first operand, and an argument that starts with `-`
  and a digit or a point is an operand. Usage errors print a hint after the
  message; all errors end with status 1.
-/

namespace ReplHost.Shell

/-- An operand of `seq`: its value, and the width and number of decimals
    it is written with (`none`: it sets no number of decimals). -/
structure SeqOperand where
  value : FloatValue
  width : Int
  precision : Option Nat
  deriving Repr

/-- The operand one, which FIRST and STEP are when not given. -/
def SeqOperand.one : SeqOperand := ⟨FloatValue.ofNat .extended 1, 1, some 0⟩

/-- The options of `seq`. -/
structure SeqOptions where
  /-- `-w`: pad the numbers with zeros to one width. -/
  equalWidth : Bool := false
  /-- `-s`: what goes between the numbers. -/
  separator : String := "\n"
  /-- `-f`: the format of a number. -/
  format : Option String := none

/-- A usage error of `seq`, with the hint that follows it. -/
def seqUsage (msg : String) : Result :=
  { err := bytesOf ("seq: " ++ msg ++ "\nTry 'seq --help' for more information.\n"), status := 1 }

/-- An error of `seq` without the hint. -/
def seqFailure (msg : String) : Result :=
  { err := bytesOf ("seq: " ++ msg ++ "\n"), status := 1 }

/-- The long options of `seq`, which may be shortened to any prefix that
    names only one of them. -/
def seqLongOptions : List String := ["equal-width", "format", "help", "separator", "version"]

/-- Sets the long option `opt`, given as `arg`, to `v`. -/
def setLong (o : SeqOptions) (arg opt : String) (v : Option String) : Except Result SeqOptions :=
  if opt = "equal-width" then .ok { o with equalWidth := true }
  else if opt = "format" then .ok { o with format := v }
  else if opt = "separator" then .ok { o with separator := v.getD "" }
  else .error (seqUsage ("unrecognized option '" ++ arg ++ "'"))

/-- Whether an argument is an operand that reads as a negative number. -/
def looksNegative (a : String) : Bool :=
  match a.toList with
  | '-' :: c :: _ => c = '.' || c.isDigit
  | _ => false

/-- Reads the options of `seq` up to its first operand: the options and
    the operands, or the error that stops it. Short options may be
    grouped, and `-f` and `-s` take the rest of their group or the next
    argument. -/
def seqOptions (o : SeqOptions) : List String → Except Result (SeqOptions × List String)
  | [] => .ok (o, [])
  | a :: rest =>
    if looksNegative a then .ok (o, a :: rest)
    else if a = "--" then .ok (o, rest)
    else
      match a.toList with
      | '-' :: '-' :: long =>
        let (name, value) := match long.span (· ≠ '=') with
          | (n, '=' :: v) => (String.ofList n, some (String.ofList v))
          | (n, _) => (String.ofList n, none)
        let hits := seqLongOptions.filter (name.isPrefixOf ·)
        let full := if seqLongOptions.contains name then [name] else hits
        match full with
        | [opt] =>
          let needs := opt = "format" || opt = "separator"
          match value, needs with
          | some _, false =>
            .error (seqUsage ("option '--" ++ opt ++ "' doesn't allow an argument"))
          | some v, true => (setLong o a opt (some v)).bind (seqOptions · rest)
          | none, false => (setLong o a opt none).bind (seqOptions · rest)
          | none, true =>
            match rest with
            | v :: more => (setLong o a opt (some v)).bind (seqOptions · more)
            | [] => .error (seqUsage ("option '--" ++ opt ++ "' requires an argument"))
        | [] => .error (seqUsage ("unrecognized option '" ++ a ++ "'"))
        | _ => .error (seqUsage ("option '" ++ a ++ "' is ambiguous"))
      | '-' :: c :: cs => group o (c :: cs) rest
      | _ => .ok (o, a :: rest)
termination_by args => (args.length, 0)
where
  /-- Reads a group of short options, then the arguments after it. -/
  group (o : SeqOptions) (cs : List Char) (rest : List String) :
      Except Result (SeqOptions × List String) :=
    match cs with
    | [] => seqOptions o rest
    | 'w' :: more => group { o with equalWidth := true } more rest
    | c :: more =>
      if c = 'f' || c = 's' then
        let set := fun (v : String) =>
          if c = 'f' then { o with format := some v } else { o with separator := v }
        if more.isEmpty then
          match rest with
          | v :: after => seqOptions (set v) after
          | [] => .error (seqUsage ("option requires an argument -- '" ++ String.singleton c ++ "'"))
        else seqOptions (set (String.ofList more)) rest
      else .error (seqUsage ("invalid option -- '" ++ String.singleton c ++ "'"))
  termination_by (rest.length, cs.length + 1)

/-- How wide an operand is written and how many decimals it has, from its
    text: its length without leading blanks and `+`, a point that has a
    digit on neither side counted as the `0` written for it, and an
    exponent shifting the point. A hexadecimal operand sets no width, and
    one with a point or a binary exponent no number of decimals. -/
def operandLayout (value : FloatValue) (arg : String) : Int × Option Nat :=
  let cs := arg.toList.dropWhile fun c => FloatValue.isSpace c || c = '+'
  let point := cs.findIdx? (· = '.')
  let precision : Option Nat := if point.isNone && !cs.contains 'p' then some 0 else none
  if cs.contains 'x' || cs.contains 'X' || !value.isFinite then (0, precision)
  else
    let width : Int := cs.length
    let (fractionLen, precision, width) := match point with
      | none => (0, precision, width)
      | some i =>
        let frac := (cs.drop (i + 1)).takeWhile fun c => c ≠ 'e' && c ≠ 'E'
        let digitBefore := i > 0 && (cs[i - 1]?.map Char.isDigit).getD false
        (frac.length, some frac.length,
          width + (if frac.isEmpty then -1 else if digitBefore then 0 else 1))
    match cs.findIdx? (· = 'e'), cs.findIdx? (· = 'E') with
    | none, none => (width, precision)
    | e₁, e₂ =>
      let e := match e₁ with
        | some i => i
        | none => e₂.getD 0
      let expText := cs.drop (e + 1)
      let (neg, ds) := match expText with
        | '-' :: r => (true, r)
        | '+' :: r => (false, r)
        | r => (false, r)
      let mag : Int := Decimal.valueOf (ds.takeWhile Char.isDigit)
      let exponent : Int := if neg then -mag else mag
      let p : Int := (precision.getD 0 : Nat)
      let p := if exponent < 0 then p - exponent else p - min p exponent
      let width := width - (cs.length - e)
      let (width, shift) :=
        if exponent < 0 then
          let width := match point with
            | some i => if e = i + 1 then width + 1 else width
            | none => width + 1
          (width, -exponent)
        else
          let width := if point.isSome && p = 0 && fractionLen > 0 then width - 1 else width
          (width, -(min p exponent))
      (width + shift, precision.map fun _ => p.toNat)

/-- Reads an operand of `seq`: a number and nothing after it, neither
    past the largest values nor rounded below the normal ones to anything
    but zero, and not a NaN. -/
def seqOperand (arg : String) : Except Result SeqOperand :=
  match FloatValue.read .extended arg.toList with
  | some (v, range, []) =>
    if range && !v.isZero then .error (seqUsage ("invalid floating point argument: " ++ quoteArg arg))
    else if v.isNaN then
      .error (seqUsage ("invalid 'not-a-number' argument: " ++ quoteArg arg))
    else
      let (width, precision) := operandLayout v arg
      .ok ⟨v, width, precision⟩
  | _ => .error (seqUsage ("invalid floating point argument: " ++ quoteArg arg))

/-- How a number of `seq` is written: text before and after one
    floating-point conversion with its flags, width and precision. -/
structure SeqFormat where
  before : String := ""
  flags : List Char := []
  width : Option Nat := none
  precision : Option Nat := none
  conv : Char := 'g'
  after : String := ""

/-- Writes a number. -/
def SeqFormat.show (f : SeqFormat) (v : FloatValue) : String :=
  f.before ++ FloatValue.format .extended f.flags f.width f.precision f.conv v ++ f.after

/-- The number a written number reads back as, when all of its text
    between the text around the conversion is a number. -/
def SeqFormat.readBack (f : SeqFormat) (text : String) : Option FloatValue :=
  let cs := (text.toList.drop f.before.length).take (text.length - f.before.length - f.after.length)
  match FloatValue.read .extended cs with
  | some (v, false, []) => some v
  | _ => none

/-- Reads plain text of a format up to its conversion, `%%` standing for
    `%`: the text and what follows the `%` of the conversion; `none` when
    no conversion comes. -/
def plainText (acc : List Char) : List Char → Option (List Char × List Char)
  | [] => none
  | '%' :: '%' :: rest => plainText ('%' :: acc) rest
  | '%' :: rest => some (acc.reverse, rest)
  | c :: rest => plainText (c :: acc) rest

/-- Reads the format `-f` gives: text, one conversion `%[flags][width]
    [.precision][L]C` with C one of `e f g a E F G A`, and text without
    another conversion. -/
def readSeqFormat (fmt : String) : Except Result SeqFormat :=
  let named := quoteArg fmt
  match plainText [] fmt.toList with
  | none => .error (seqFailure ("format " ++ named ++ " has no % directive"))
  | some (before, rest) =>
    let (flags, rest) := rest.span ("-+#0 '".contains ·)
    let (width, rest) := rest.span Char.isDigit
    let (precision, rest) := match rest with
      | '.' :: r => let (ds, r) := r.span Char.isDigit; (some (Decimal.valueOf ds), r)
      | r => (none, r)
    let rest := match rest with
      | 'L' :: r => r
      | r => r
    match rest with
    | [] => .error (seqFailure ("format " ++ named ++ " ends in %"))
    | c :: more =>
      if !("efgaEFGA".contains c) then
        .error (seqFailure ("format " ++ named ++ " has unknown %" ++ String.singleton c ++ " directive"))
      else
        match plainText [] more with
        | some _ => .error (seqFailure ("format " ++ named ++ " has too many % directives"))
        | none =>
          let after := String.ofList (unescape [] more)
          .ok { before := String.ofList before, flags := flags.filter (· ≠ '\x27'),
                width := if width.isEmpty then none else some (Decimal.valueOf width),
                precision := precision, conv := c, after := after }
where
  /-- Text after the conversion, `%%` standing for `%`. -/
  unescape (acc : List Char) : List Char → List Char
    | '%' :: '%' :: rest => unescape ('%' :: acc) rest
    | c :: rest => unescape (c :: acc) rest
    | [] => acc.reverse

/-- The format `seq` writes its numbers with when `-f` gives none. -/
def defaultFormat (equalWidth : Bool) (first step last : SeqOperand) : SeqFormat :=
  match first.precision, step.precision, last.precision with
  | some fp, some sp, some lp =>
    let prec := max fp sp
    if equalWidth then
      let firstWidth : Int := first.width + (prec - fp : Int) + (if fp = 0 && prec > 0 then 1 else 0)
      let lastWidth : Int := last.width + (prec - lp : Int) +
        (if lp > 0 && prec = 0 then -1 else if lp = 0 && prec > 0 then 1 else 0)
      { flags := ['0'], width := some (max firstWidth lastWidth).toNat, precision := some prec,
        conv := 'f' }
    else { precision := some prec, conv := 'f' }
  | _, _, _ => {}

/-- The most numbers `seq` writes here: a sequence that would go on past
    it, towards an infinity, is cut there. -/
def seqLimit : Nat := 1000000

/-- How many numbers lie from `first` by `step` up to `last`, with two to
    spare for rounding; `seqLimit` when that is unbounded. -/
def seqCount (first step last : FloatValue) : Nat :=
  match first.toRatio?, step.toRatio?, last.toRatio? with
  | some (a, b), some (c, d), some (e, g) =>
    let num := (e * b - a * g) * d
    let den := (g * b : Int) * c
    if den = 0 then 0
    else if (num < 0) = (den < 0) || num = 0 then min seqLimit (num.natAbs / den.natAbs + 2)
    else 1
  | _, _, _ => seqLimit

/-- The numbers of `seq` after `x` (number `i` of the sequence, which has
    been written), with the separator before each. -/
def seqRest (fmt : SeqFormat) (sep : String) (first step last x : FloatValue) (i : Nat) :
    Nat → List String
  | 0 => []
  | fuel + 1 =>
    let x' := FloatValue.add .extended first (FloatValue.mul .extended (FloatValue.ofNat .extended i) step)
    let past := if step.negative then x'.lt last else last.lt x'
    if past then
      let text := fmt.show x'
      let extra := match fmt.readBack text with
        | some v => v.eq last && fmt.show x ≠ text
        | none => false
      if extra then [sep, text] else []
    else sep :: fmt.show x' :: seqRest fmt sep first step last x' (i + 1) fuel

/-- The numbers of `seq` with `long double` arithmetic. -/
def seqFloating (fmt : SeqFormat) (sep : String) (first step last : FloatValue) : Result :=
  let past := if step.negative then first.lt last else last.lt first
  if past then {}
  else
    let texts := fmt.show first :: seqRest fmt sep first step last first 1 (seqCount first step last)
    { out := bytesOf (String.join texts ++ "\n") }

/-- The numbers of `seq` counted exactly, from `first` by a positive
    `step` up to `last`. -/
def seqExact (sep : String) (first step last : Int) : Result :=
  let count := if first > last then 0 else min seqLimit ((last - first) / step + 1).toNat
  let ns := (List.range count).map fun (i : Nat) => first + step * (i : Int)
  if ns.isEmpty then {} else { out := bytesOf (sep.intercalate (ns.map Decimal.renderInt) ++ "\n") }

/-- Whether an argument is decimal digits only. -/
def allDigits (a : String) : Bool := !a.isEmpty && a.all Char.isDigit

/-- `seq`: see the module documentation. -/
def seq (args : List String) : Result :=
  match seqOptions {} args with
  | .error r => r
  | .ok (o, ops) =>
    if ops.isEmpty then seqUsage "missing operand"
    else if ops.length > 3 then seqUsage ("extra operand " ++ quoteArg ((ops.drop 3).headD ""))
    else
      let format : Except Result (Option SeqFormat) := match o.format with
        | some f => (readSeqFormat f).map some
        | none => .ok none
      match format with
      | .error r => r
      | .ok fmt =>
        if fmt.isSome && o.equalWidth then
          seqUsage "format string may not be specified when printing equal width strings"
        else
          let plain := fmt.isNone && !o.equalWidth && o.separator.length = 1
          match ops with
          | [l] =>
            if plain && allDigits l then seqExact o.separator 1 1 (Decimal.valueOf l.toList)
            else general o fmt SeqOperand.one SeqOperand.one l
          | [f, l] =>
            if plain && allDigits f && allDigits l then
              seqExact o.separator (Decimal.valueOf f.toList) 1 (Decimal.valueOf l.toList)
            else
              match seqOperand f with
              | .error r => r
              | .ok first => general o fmt first SeqOperand.one l
          | f :: s :: l :: _ =>
            let stepValue := (Decimal.valueOf s.toList : Int)
            if plain && allDigits f && allDigits s && allDigits l && 0 < stepValue then
              seqExact o.separator (Decimal.valueOf f.toList) stepValue (Decimal.valueOf l.toList)
            else
              match seqOperand f, seqOperand s with
              | .error r, _ => r
              | .ok _, .error r => r
              | .ok first, .ok step =>
                if step.value.isZero then seqUsage ("invalid Zero increment value: " ++ quoteArg s)
                else general o fmt first step l
          | [] => seqUsage "missing operand"
where
  /-- Reads LAST and writes the numbers with `long double` arithmetic. -/
  general (o : SeqOptions) (fmt : Option SeqFormat) (first step : SeqOperand) (l : String) : Result :=
    match seqOperand l with
    | .error r => r
    | .ok last =>
      let fmt := fmt.getD (defaultFormat o.equalWidth first step last)
      seqFloating fmt o.separator first.value step.value last.value

end ReplHost.Shell
