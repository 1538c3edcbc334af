import ReplHost.Text.Decimal
import ReplHost.Text.Utf8
import ReplHost.Text.Floating

/-! # Shell utilities

  The text utilities a console script typically calls, as functions from
  arguments and standard input to output and exit status:

  - `echo` in two dialects: the shell's own, which always reads backslash
    escapes (`\n`, `\t`, `\c` to stop, `\0nnn` octal …), and the standalone
    program, which reads them only after `-e`;
  - the shell's `printf` with `%s %b %c %d %i %u %o %x %X %%` and the
    floating-point conversions, flags, width and precision (also from the
    arguments with `*`), octal escapes `\nnn` in the format, and the format
    reused while arguments remain;
  - line splitting, `yes`, `basename` and `dirname`.
-/

namespace ReplHost.Shell

/-- What a utility produced. -/
structure Result where
  /-- Its output. -/
  out : List UInt8 := []
  /-- What it wrote to standard error. -/
  err : List UInt8 := []
  /-- Its exit status. -/
  status : Nat := 0
  /-- What a terminal shows when both streams go to it, when that is not
      simply the output followed by the errors. -/
  shown : Option (List UInt8) := none
  deriving DecidableEq, Repr

/-! ### Text as bytes

  The shell and its utilities work on bytes, as in the C locale: a character
  of a multibyte encoding counts as several, and a pattern's `?` matches one
  byte of it. The shell's text therefore holds one character per byte, the
  character whose code is the byte's value. Text from outside (arguments,
  the environment) enters through `rawText`; names go back to the file
  system through `fsName`. -/

/-- The shell's text of some bytes. -/
def textOf (bs : List UInt8) : String := String.ofList (bs.map fun b => Char.ofNat b.toNat)

/-- The bytes of the shell's text. -/
def bytesOf (s : String) : List UInt8 := s.toList.map fun c => c.toNat.toUInt8

/-- The shell's text of a string from outside: its encoded bytes. -/
def rawText (s : String) : String := textOf (Utf8.encode s)

/-- The name the file system knows for a path in the shell's text. -/
def fsName (s : String) : String := Utf8.decodeLossyString (bytesOf s)

/-- An argument as messages show it: in single quotes, with backslash
    escapes for quotes, backslashes and characters that do not print. -/
def quoteArg (s : String) : String :=
  let escape := fun (c : Char) =>
    if c = '\\' then "\\\\"
    else if c = '\x27' then "\\'"
    else if c = '\x07' then "\\a"
    else if c = '\x08' then "\\b"
    else if c = '\x0c' then "\\f"
    else if c = '\n' then "\\n"
    else if c = '\r' then "\\r"
    else if c = '\t' then "\\t"
    else if c = '\x0b' then "\\v"
    else if c.toNat < 0x20 || c.toNat ≥ 0x7F then
      "\\" ++ String.ofList ((Nat.toDigits 8 (c.toNat + 0x200)).drop 1)
    else c.toString
  "'" ++ String.join (s.toList.map escape) ++ "'"

/-- Whether a character is an octal digit. -/
def isOctal (c : Char) : Bool := '0' ≤ c && c ≤ '7'

/-- Reads up to `n` octal digits: their value and the rest. -/
def octalPrefix (n : Nat) (acc : Nat) (cs : List Char) : Nat × List Char :=
  match n, cs with
  | 0, _ => (acc, cs)
  | n + 1, c :: rest => if isOctal c then octalPrefix n (8 * acc + (c.toNat - '0'.toNat)) rest else (acc, cs)
  | _ + 1, [] => (acc, cs)

/-- Reads one escape after a backslash: the bytes it stands for and the
    rest; an unknown escape keeps its backslash. -/
def escapeAfterBackslash (cs : List Char) : List UInt8 × List Char :=
  match cs with
  | '\\' :: rest => ([0x5C], rest)
  | 'a' :: rest => ([0x07], rest)
  | 'b' :: rest => ([0x08], rest)
  | 'f' :: rest => ([0x0C], rest)
  | 'n' :: rest => ([0x0A], rest)
  | 'r' :: rest => ([0x0D], rest)
  | 't' :: rest => ([0x09], rest)
  | 'v' :: rest => ([0x0B], rest)
  | c :: rest =>
    if isOctal c then
      let (v, after) := octalPrefix 3 0 (c :: rest)
      ([UInt8.ofNat (v % 256)], after)
    else ([0x5C], c :: rest)
  | [] => ([0x5C], [])

/-- Expands the escapes of an argument as `echo` and `%b` do: `\c` stops
    all output (the flag says so), and octal escapes may start with `\0`. -/
def expandEscapes (acc : List UInt8) : List Char → (fuel : Nat) → List UInt8 × Bool
  | _, 0 => (acc, false)
  | [], _ + 1 => (acc, false)
  | c :: cs, fuel + 1 =>
    if c = '\\' then
      match cs with
      | 'c' :: _ => (acc, true)
      | '0' :: d :: rest =>
        if isOctal d then
          let (bs, after) := escapeAfterBackslash (d :: rest)
          expandEscapes (acc ++ bs) after fuel
        else
          let (bs, after) := escapeAfterBackslash ('0' :: d :: rest)
          expandEscapes (acc ++ bs) after fuel
      | _ =>
        let (bs, after) := escapeAfterBackslash cs
        expandEscapes (acc ++ bs) after fuel
    else expandEscapes (acc ++ [c.toNat.toUInt8]) cs fuel

/-- The shell's own `echo`: `-n` first drops the line break; escapes are
    always read. -/
def shellEcho (args : List String) : Result :=
  let (newline, args) := match args with
    | "-n" :: rest => (false, rest)
    | _ => (true, args)
  let text := " ".intercalate args
  let (bytes, stopped) := expandEscapes [] text.toList (text.length + 1)
  { out := if stopped || !newline then bytes else bytes ++ [0x0A] }

/-- The standalone `echo`: options `-n`, `-e`, `-E` first; escapes only
    with `-e`. -/
def programEcho (args : List String) : Result :=
  let isOpt (a : String) : Bool := a.length ≥ 2 && a.startsWith "-" && (a.drop 1).all (fun c => c = 'n' || c = 'e' || c = 'E')
  let opts := args.takeWhile isOpt
  let rest := args.dropWhile isOpt
  let flags := String.join (opts.map (·.drop 1 |>.toString))
  let newline := !flags.contains 'n'
  let escapes := (flags.toList.filter (fun c => c = 'e' || c = 'E')).getLast? = some 'e'
  let text := " ".intercalate rest
  let (bytes, stopped) :=
    if escapes then expandEscapes [] text.toList (text.length + 1) else (bytesOf text, false)
  { out := if stopped || !newline then bytes else bytes ++ [0x0A] }

/-! ### printf -/

/-- A conversion of a `printf` format. -/
structure Spec where
  flags : List Char := []
  width : Option Nat := none
  precision : Option Nat := none
  /-- Whether the width is read from the arguments (`*`). -/
  widthArg : Bool := false
  /-- Whether the precision is read from the arguments (`.*`). -/
  precisionArg : Bool := false
  conv : Char := 's'

/-- Pads text to a width, left-aligned with `-`, with zeros when asked. -/
def pad (sp : Spec) (zeroOk : Bool) (text : List Char) : List Char :=
  match sp.width with
  | none => text
  | some w =>
    if text.length ≥ w then text
    else
      let fill := w - text.length
      if sp.flags.contains '-' then text ++ List.replicate fill ' '
      else if zeroOk && sp.flags.contains '0' && sp.precision.isNone then
        match text with
        | '-' :: ds => '-' :: List.replicate fill '0' ++ ds
        | _ => List.replicate fill '0' ++ text
      else List.replicate fill ' ' ++ text

/-- The digits of a number in a base (up to 16), lowercase or not. -/
def digitsIn (base : Nat) (upper : Bool) (n : Nat) : List Char :=
  let ds := Nat.toDigits base n
  if upper then ds.map Char.toUpper else ds

/-- How much of a numeric argument was read. -/
inductive Conversion where
  /-- All of it. -/
  | complete
  /-- A number, then other text. -/
  | trailing
  /-- No number at all. -/
  | missing
  deriving DecidableEq, Repr

/-- The value of digits in a base; `none` when a digit is not of the base. -/
def digitValueIn (base : Nat) (c : Char) : Option Nat :=
  let v := if c.isDigit then c.toNat - '0'.toNat
    else if 'a' ≤ c && c ≤ 'f' then c.toNat - 'a'.toNat + 10
    else if 'A' ≤ c && c ≤ 'F' then c.toNat - 'A'.toNat + 10
    else 99
  if v < base then some v else none

/-- Reads the digits of a base at the front: their value, how many there
    were, and the rest. -/
def digitsPrefix (base : Nat) (acc count : Nat) : List Char → Nat × Nat × List Char
  | [] => (acc, count, [])
  | c :: cs =>
    match digitValueIn base c with
    | some v => digitsPrefix base (base * acc + v) (count + 1) cs
    | none => (acc, count, c :: cs)

/-- Reads an integer at the front of text as `strtoimax` does with base
    0: blanks, a sign, then hexadecimal after `0x`, octal after `0`, else
    decimal. The empty text is 0. -/
def readIntegerText (cs : List Char) : Int × Conversion :=
  match cs with
  | [] => (0, .complete)
  | cs =>
    let cs := cs.dropWhile (fun c => c = ' ' || c = '\t' || c = '\n')
    let (neg, ds) := match cs with
      | '-' :: r => (true, r)
      | '+' :: r => (false, r)
      | r => (false, r)
    let (v, n, rest) := match ds with
      | '0' :: x :: r =>
        if (x = 'x' || x = 'X') && (r.head?.bind (digitValueIn 16)).isSome then digitsPrefix 16 0 0 r
        else digitsPrefix 8 0 0 ds
      | _ => digitsPrefix 10 0 0 ds
    let v : Int := if neg then -(v : Int) else v
    if n = 0 then (0, .missing) else (v, if rest.isEmpty then .complete else .trailing)

/-- Reads an integer argument of `printf`: blanks, a sign, then
    hexadecimal after `0x`, octal after `0`, else decimal. A leading quote
    gives the code of the next character. -/
def readInteger (a : String) : Int × Conversion :=
  match a.toList with
  | '\'' :: rest => ((rest.head?.map Char.toNat).getD 0, .complete)
  | '"' :: rest => ((rest.head?.map Char.toNat).getD 0, .complete)
  | cs => readIntegerText cs

/-- Reads a numeric argument: the value when all of it is a number. -/
def numericArg (a : String) : Option Int :=
  match readInteger a with
  | (v, .complete) => some v
  | _ => none

/-- Reads a decimal integer: blanks, a sign, and digits only. -/
def decimalArg (a : String) : Option Int :=
  let cs := a.toList.dropWhile (fun c => c = ' ' || c = '\t')
  let (neg, ds) := match cs with
    | '-' :: r => (true, r)
    | '+' :: r => (false, r)
    | r => (false, r)
  if !ds.isEmpty && ds.all Char.isDigit then
    let v : Int := (Decimal.valueOf ds : Int)
    some (if neg then -v else v)
  else none

/-- Formats one integer conversion of a value that fits its type: signed
    for `d` and `i`, unsigned for the others. -/
def formatInt (sp : Spec) (v : Int) : List Char :=
  let body : List Char := match sp.conv with
    | 'o' => digitsIn 8 false v.toNat
    | 'x' => digitsIn 16 false v.toNat
    | 'X' => digitsIn 16 true v.toNat
    | 'u' => Nat.toDigits 10 v.toNat
    | _ => Nat.toDigits 10 v.natAbs
  let body := if sp.precision = some 0 && v = 0 then [] else body
  let body := match sp.precision with
    | some p => if body.length < p then List.replicate (p - body.length) '0' ++ body else body
    | none => body
  let sign : List Char :=
    if (sp.conv = 'd' || sp.conv = 'i') then
      if v < 0 then ['-'] else if sp.flags.contains '+' then ['+'] else if sp.flags.contains ' ' then [' '] else []
    else []
  let body := if sp.flags.contains '#' && sp.conv = 'o' && body.head? ≠ some '0' then '0' :: body else body
  let pre : List Char :=
    if sp.flags.contains '#' && v ≠ 0 then
      (match sp.conv with | 'x' => ['0', 'x'] | 'X' => ['0', 'X'] | _ => [])
    else []
  pad sp true (sign ++ pre ++ body)

/-- Reads the flags, width and precision of a conversion after `%`, and its
    conversion character; `none` when the format ends first. -/
def readSpec (cs : List Char) : Option (Spec × List Char) :=
  let (flags, r1) := cs.span (fun c => c = '-' || c = '+' || c = ' ' || c = '#' || c = '0')
  let (wStar, w, r2) : Bool × List Char × List Char := match r1 with
    | '*' :: r => (true, [], r)
    | r => let (w, r) := r.span Char.isDigit; (false, w, r)
  let (pStar, prec, r3) : Bool × Option Nat × List Char := match r2 with
    | '.' :: '*' :: r => (true, none, r)
    | '.' :: r => let (p, r') := r.span Char.isDigit; (false, some (Decimal.valueOf p), r')
    | r => (false, none, r)
  match r3 with
  | c :: rest =>
    some ({ flags := flags, width := if w.isEmpty then none else some (Decimal.valueOf w),
            precision := prec, widthArg := wStar, precisionArg := pStar, conv := c }, rest)
  | [] => none

/-- What formatting has produced so far: output, warnings, whether a
    conversion failed, and the error that stopped it, if any. -/
structure Formatted where
  out : List UInt8 := []
  warnings : List String := []
  failed : Bool := false
  error : Option String := none

/-- Adds a warning about an argument. -/
def Formatted.warn (f : Formatted) (arg msg : String) : Formatted :=
  { f with warnings := f.warnings ++ [arg ++ ": " ++ msg], failed := true }

/-- The text of the error a number out of range gives. -/
def rangeMessage : String := "Numerical result out of range"

/-- The largest signed 64-bit value. -/
def signedMax : Int := Int.pow 2 63 - 1

/-- Reads the argument of a signed conversion: the value, held to 64 bits,
    with a warning when it is not all a number or out of range. -/
def signedArg (f : Formatted) (arg : String) : Int × Formatted :=
  let (v, conv) := readInteger arg
  let held := max (-signedMax - 1) (min signedMax v)
  match conv with
  | .complete => (held, if held = v then f else f.warn arg rangeMessage)
  | .trailing => (held, f.warn arg "not completely converted")
  | .missing => (held, f.warn arg "expected numeric value")

/-- Reads the argument of an unsigned conversion: a negative value counts
    from 2^64 down, and one whose size does not fit is the largest. -/
def unsignedArg (f : Formatted) (arg : String) : Int × Formatted :=
  let (v, conv) := readInteger arg
  let big := v.natAbs > Nat.pow 2 64 - 1
  let value : Int := if big then Int.pow 2 64 - 1 else if v < 0 then Int.pow 2 64 + v else v
  match conv with
  | .complete => (value, if big then f.warn arg rangeMessage else f)
  | .trailing => (value, f.warn arg "not completely converted")
  | .missing => (value, f.warn arg "expected numeric value")

/-- Reads the argument of a floating-point conversion as a `double`. -/
def floatArg (f : Formatted) (arg : String) : FloatValue × Formatted :=
  match arg.toList with
  | [] => (FloatValue.zero .double false, f)
  | '\'' :: rest => (FloatValue.ofNat .double ((rest.head?.map Char.toNat).getD 0), f)
  | '"' :: rest => (FloatValue.ofNat .double ((rest.head?.map Char.toNat).getD 0), f)
  | cs =>
    match FloatValue.read .double cs with
    | none => (FloatValue.zero .double false, f.warn arg "expected numeric value")
    | some (v, range, rest) =>
      if !rest.isEmpty then (v, f.warn arg "not completely converted")
      else if range then (v, f.warn arg rangeMessage)
      else (v, f)

/-- A value as the C `int` it is converted to. -/
def asInt32 (v : Int) : Int :=
  let m := v % Int.pow 2 32
  if m ≥ Int.pow 2 31 then m - Int.pow 2 32 else m

/-- Takes the width and precision that a conversion reads from the
    arguments: a negative width pads on the right, a negative precision
    counts as none. -/
def starArgs (sp : Spec) (args : List String) (used : Bool) (f : Formatted) :
    Spec × List String × Bool × Formatted :=
  let take := fun (args : List String) (used : Bool) (f : Formatted) =>
    match args with
    | a :: more => let (v, f) := signedArg f a; (asInt32 v, more, true, f)
    | [] => (0, [], used, f)
  let (sp, args, used, f) :=
    if sp.widthArg then
      let (w, args, used, f) := take args used f
      (if w < 0 then { sp with flags := sp.flags ++ ['-'], width := some w.natAbs }
       else { sp with width := some w.toNat }, args, used, f)
    else (sp, args, used, f)
  if sp.precisionArg then
    let (p, args, used, f) := take args used f
    ({ sp with precision := if p < 0 then none else some p.toNat }, args, used, f)
  else (sp, args, used, f)

/-- One pass over the format: what it gives, the arguments left, whether one
    was used, and whether output stopped (at `\c` or an error). -/
def formatPass (args : List String) (used : Bool) (acc : Formatted) :
    List Char → (fuel : Nat) → Formatted × List String × Bool × Bool
  | _, 0 => (acc, args, used, false)
  | [], _ + 1 => (acc, args, used, false)
  | c :: cs, fuel + 1 =>
    let put := fun (f : Formatted) (bs : List UInt8) => { f with out := f.out ++ bs }
    if c = '\\' then
      let (bs, rest) := escapeAfterBackslash cs
      formatPass args used (put acc bs) rest fuel
    else if c = '%' then
      match cs with
      | '%' :: rest => formatPass args used (put acc [0x25]) rest fuel
      | _ =>
        match readSpec cs with
        | none => ({ acc with error := some "missing format character" }, args, used, true)
        | some (sp, rest) =>
          let (sp, args, used, acc) := starArgs sp args used acc
          let (arg, args', used') := match args with
            | a :: more => (a, more, true)
            | [] => ("", [], used)
          let text := fun (cs : List Char) => bytesOf (String.ofList cs)
          if sp.conv = 's' then
            let chars := arg.toList
            let chars := match sp.precision with | some p => chars.take p | none => chars
            formatPass args' used' (put acc (text (pad sp false chars))) rest fuel
          else if sp.conv = 'b' then
            let (bs, stopped) := expandEscapes [] arg.toList (arg.length + 1)
            let bs := match sp.precision with | some p => bs.take p | none => bs
            let bs := text (pad sp false (textOf bs).toList)
            if stopped then (put acc bs, args', used', true)
            else formatPass args' used' (put acc bs) rest fuel
          else if sp.conv = 'c' then
            let chars := (arg.toList.take 1)
            let chars := if chars.isEmpty then ['\x00'] else chars
            formatPass args' used' (put acc (text (pad sp false chars))) rest fuel
          else if sp.conv = 'd' || sp.conv = 'i' then
            let (v, acc) := signedArg acc arg
            formatPass args' used' (put acc (text (formatInt sp v))) rest fuel
          else if sp.conv = 'u' || sp.conv = 'o' || sp.conv = 'x' || sp.conv = 'X' then
            let (v, acc) := unsignedArg acc arg
            formatPass args' used' (put acc (text (formatInt sp v))) rest fuel
          else if "aAeEfFgG".contains sp.conv then
            let (v, acc) := floatArg acc arg
            let shown := FloatValue.format .double sp.flags sp.width sp.precision sp.conv v
            formatPass args' used' (put acc (bytesOf shown)) rest fuel
          else
            let directive := String.ofList ('%' :: cs.take (cs.length - rest.length))
            ({ acc with error := some (directive ++ ": invalid directive") }, args, used, true)
    else formatPass args used (put acc ([c.toNat.toUInt8])) cs fuel

/-- `printf FORMAT ARGS…`: the format is used again while arguments
    remain and the last pass used one. `warn` turns a warning into the line
    written to standard error. -/
def printf (warn : String → String) (format : String) (args : List String) : Result :=
  let fs := format.toList
  let finish := fun (f : Formatted) =>
    ({ out := f.out, err := bytesOf (String.join ((f.warnings ++ f.error.toList).map warn)),
       status := if f.error.isSome then 2 else if f.failed then 1 else 0 } : Result)
  let rec go (args : List String) (acc : Formatted) : (fuel : Nat) → Result
    | 0 => finish acc
    | fuel + 1 =>
      let (f, rest, used, stopped) := formatPass args false acc fs (fs.length + 1)
      if stopped || rest.isEmpty || !used then finish f
      else go rest f fuel
  go args {} (args.length + 1)

/-! ### Line utilities -/

/-- Splits bytes into lines after the lines `done` (last first) and the
    start `cur` (last byte first) of the line being read. Both are kept in
    reverse so that each byte costs the same. -/
def linesAfter (done : List (List UInt8)) (cur : List UInt8) : List UInt8 → List (List UInt8)
  | [] => (if cur.isEmpty then done else cur.reverse :: done).reverse
  | b :: bs =>
    if b = 0x0A then linesAfter ((b :: cur).reverse :: done) [] bs
    else linesAfter done (b :: cur) bs

/-- Splits bytes into lines, each with its line break (the last may have
    none). -/
def lines (bs : List UInt8) : List (List UInt8) := linesAfter [] [] bs

/-- How many lines `yes` writes before its reader is taken to have stopped
    reading. -/
def yesLines : Nat := 131072

/-- `yes [TEXT]`: the text (`y` by default) on line after line. -/
def yes (args : List String) : Result :=
  let line := bytesOf ((if args.isEmpty then "y" else " ".intercalate args) ++ "\n")
  { out := (List.replicate yesLines line).flatten }

/-- The last component of a path. -/
def baseName (p : String) : String :=
  match ((p.splitOn "/").filter (· ≠ "")).getLast? with
  | some b => b
  | none => if p.startsWith "/" then "/" else ""

/-- The directory part of a path. -/
def dirName (p : String) : String :=
  let parts := (p.splitOn "/").filter (· ≠ "")
  if parts.length ≤ 1 then (if p.startsWith "/" then "/" else ".")
  else (if p.startsWith "/" then "/" else "") ++ "/".intercalate parts.dropLast

end ReplHost.Shell
