import ReplHost.Shell.Quoting

/-! # The `printf` program

  The `printf` found on the search path, as opposed to the shell's own,
  reads its format with these differences:

  - a directive takes only the flags that suit its conversion (`#` not
    with `c d i s u`, `0` not with `c s`, `'` only with `d i u f F g G`, a
    precision not with `c`), skips the length modifiers `l L h j t z`, and
    `%b` and `%q` take nothing between `%` and their letter; any other
    directive is an "invalid conversion specification" that ends the
    program with status 1;
  - a numeric argument is checked after it is read: out of range first,
    then "expected a numeric value" or "value not completely converted",
    the argument quoted; the status becomes 1 and the value read is used;
  - a character constant (`'c` or `"c`) gives the code of `c`, with a
    warning when more characters follow;
  - the escapes of the format add `\"`, `\e`, `\xHH`, `\uHHHH` and
    `\UHHHHHHHH` (written `\uXXXX` in the C locale when they are not ASCII),
    and `\c` ends the program with status 0; `%b` reads octal escapes as
    `\0ooo` or `\ooo`;
  - `%q` writes its argument quoted for the shell: as it is when nothing in
    it needs quoting, in double quotes when it holds `'` and nothing that
    double quotes treat specially, and else in single quotes, with `'\''`
    for a quote and `$'\n'` pieces for characters that do not print;
  - arguments left over when a pass of the format took none are named in a
    warning.

  What the program writes is kept in order. On a terminal its standard
  output goes out a line at a time and its errors at once, which `shown`
  puts together.
-/

namespace ReplHost.Shell

/-- One write of the program. -/
inductive PrintEvent where
  /-- Bytes to standard output. -/
  | out (bytes : List UInt8)
  /-- A line to standard error. -/
  | err (text : String)
  deriving DecidableEq, Repr

/-- A run of the program so far. -/
structure Printing where
  /-- What it wrote, last first. -/
  events : List PrintEvent := []
  /-- Whether a warning has set the status to 1. -/
  failed : Bool := false
  /-- The status it ended with, once it has ended. -/
  ended : Option Nat := none

namespace Printing

/-- Writes bytes to standard output. -/
def put (p : Printing) (bytes : List UInt8) : Printing :=
  if bytes.isEmpty then p else { p with events := .out bytes :: p.events }

/-- Writes a message to standard error. -/
def note (p : Printing) (msg : String) : Printing :=
  { p with events := .err ("printf: " ++ msg ++ "\n") :: p.events }

/-- Writes a warning that sets the status to 1. -/
def warn (p : Printing) (msg : String) : Printing := { p.note msg with failed := true }

/-- Ends the program with status 1 after a message. -/
def fail (p : Printing) (msg : String) : Printing := { p.note msg with ended := some 1 }

/-- Ends the program with status 0. -/
def stop (p : Printing) : Printing := { p with ended := some 0 }

/-- The bytes written to standard output. -/
def output (p : Printing) : List UInt8 :=
  p.events.reverse.flatMap fun | .out bs => bs | .err _ => []

/-- The text written to standard error. -/
def errors (p : Printing) : String :=
  String.join (p.events.reverse.map fun | .out _ => "" | .err t => t)

/-- What a terminal shows: standard output held back to its last line
    feed, errors written at once, the rest of the output at the end. -/
def shown (p : Printing) : List UInt8 :=
  let (seen, held) := p.events.reverse.foldl (fun (acc : List UInt8 × List UInt8) e =>
    match e with
    | .err t => (acc.1 ++ bytesOf t, acc.2)
    | .out bs =>
      let held := acc.2 ++ bs
      let upTo := held.length - (held.reverse.takeWhile (· ≠ 0x0A)).length
      (acc.1 ++ held.take upTo, held.drop upTo)) ([], [])
  seen ++ held

/-- The status the program exits with. -/
def status (p : Printing) : Nat := p.ended.getD (if p.failed then 1 else 0)

end Printing

/-! ### Arguments -/

/-- A character constant: the code of the character after the quote, with
    a warning when more characters follow. -/
def charConstant? (p : Printing) (arg : String) : Option (Nat × Printing) :=
  match arg.toList with
  | q :: c :: more =>
    if q = '\x27' || q = '"' then
      some (c.toNat, if more.isEmpty then p else
        p.note ("warning: " ++ String.ofList more ++
          ": character(s) following character constant have been ignored"))
    else none
  | _ => none

/-- The warning a numeric argument gives: out of range first, then how
    much of it was read. -/
def checkNumber (p : Printing) (arg : String) (range : Bool) (conv : Conversion) : Printing :=
  if range then p.warn (quoteArg arg ++ ": " ++ rangeMessage)
  else
    match conv with
    | .complete => p
    | .trailing => p.warn (quoteArg arg ++ ": value not completely converted")
    | .missing => p.warn (quoteArg arg ++ ": expected a numeric value")

/-- Reads a signed integer argument, held to 64 bits. -/
def signedValue (p : Printing) (arg : String) : Int × Printing :=
  match charConstant? p arg with
  | some (v, p) => (v, p)
  | none =>
    let (v, conv) := readIntegerText arg.toList
    let held := max (-signedMax - 1) (min signedMax v)
    (held, checkNumber p arg (held ≠ v) conv)

/-- Reads an unsigned integer argument: a negative value counts from 2^64
    down, and one whose size does not fit is the largest. -/
def unsignedValue (p : Printing) (arg : String) : Int × Printing :=
  match charConstant? p arg with
  | some (v, p) => (v, p)
  | none =>
    let (v, conv) := readIntegerText arg.toList
    let big := v.natAbs > Nat.pow 2 64 - 1
    let value : Int := if big then Int.pow 2 64 - 1 else if v < 0 then Int.pow 2 64 + v else v
    (value, checkNumber p arg big conv)

/-- Reads a floating-point argument as a `long double`. -/
def floatValue (p : Printing) (arg : String) : FloatValue × Printing :=
  match charConstant? p arg with
  | some (v, p) => (FloatValue.ofNat .extended v, p)
  | none =>
    match arg.toList with
    | [] => (FloatValue.zero .extended false, p)
    | cs =>
      match FloatValue.read .extended cs with
      | none => (FloatValue.zero .extended false, checkNumber p arg false .missing)
      | some (v, range, rest) =>
        (v, checkNumber p arg range (if rest.isEmpty then .complete else .trailing))

/-! ### Escapes -/

/-- The byte of a C escape letter: `\"`, `\\`, `\a`, `\b`, `\e`, `\f`,
    `\n`, `\r`, `\t`, `\v` (`\c` is handled by the caller). -/
def escapeLetter? (c : Char) : Option UInt8 :=
  match c with
  | '"' => some 0x22
  | '\\' => some 0x5C
  | 'a' => some 0x07
  | 'b' => some 0x08
  | 'e' => some 0x1B
  | 'f' => some 0x0C
  | 'n' => some 0x0A
  | 'r' => some 0x0D
  | 't' => some 0x09
  | 'v' => some 0x0B
  | _ => none

/-- The value of `count` hexadecimal digits at the front, if there are
    that many. -/
def hexDigits? (count : Nat) (cs : List Char) : Option Nat :=
  let ds := (cs.take count).filterMap (digitValueIn 16)
  if ds.length = count then some (ds.foldl (fun acc d => 16 * acc + d) 0) else none

/-- Uppercase hexadecimal digits of `n`, at least `width` of them. -/
def hexUpper (width n : Nat) : String :=
  let ds := (Nat.toDigits 16 n).map Char.toUpper
  String.ofList (List.replicate (width - ds.length) '0' ++ ds)

/-- Lowercase hexadecimal digits of `n`, at least `width` of them. -/
def hexLowerPadded (width n : Nat) : String :=
  let ds := Nat.toDigits 16 n
  String.ofList (List.replicate (width - ds.length) '0' ++ ds)

/-- Runs one escape after a backslash; `octalZero` says that a `\0` before
    octal digits is skipped (as in `%b`). Returns the run and the text
    after the escape. -/
def runEscape (octalZero : Bool) (p : Printing) (cs : List Char) : Printing × List Char :=
  match cs with
  | 'x' :: rest =>
    let ds := (rest.take 2).takeWhile fun c => (digitValueIn 16 c).isSome
    if ds.isEmpty then (p.fail "missing hexadecimal number in escape", rest)
    else
      let v := ds.foldl (fun acc c => 16 * acc + (digitValueIn 16 c).getD 0) 0
      (p.put [UInt8.ofNat v], rest.drop ds.length)
  | 'c' :: rest => (p.stop, rest)
  | c :: rest =>
    if isOctal c then
      let body := if octalZero && c = '0' then rest else c :: rest
      let (v, after) := octalPrefix 3 0 body
      (p.put [UInt8.ofNat (v % 256)], after)
    else
      match escapeLetter? c with
      | some b => (p.put [b], rest)
      | none =>
        if c = 'u' || c = 'U' then
          let count := if c = 'u' then 4 else 8
          match hexDigits? count rest with
          | none => (p.fail "missing hexadecimal number in escape", rest)
          | some v =>
            let after := rest.drop count
            if (v ≤ 0x9F && v ≠ 0x24 && v ≠ 0x40 && v ≠ 0x60) || (0xD800 ≤ v && v ≤ 0xDFFF) then
              (p.fail ("invalid universal character name \\" ++ c.toString ++ hexLowerPadded count v), after)
            else if v < 0x80 then (p.put [UInt8.ofNat v], after)
            else if v < 0x10000 then (p.put (bytesOf ("\\u" ++ hexUpper 4 v)), after)
            else (p.put (bytesOf ("\\U" ++ hexUpper 8 v)), after)
        else (p.put (bytesOf (String.ofList ['\\', c])), rest)
  | [] => (p.put [0x5C], [])

/-- Writes an argument of `%b`: its text with escapes run, up to a `\c`. -/
def runEscapedText (p : Printing) : List Char → (fuel : Nat) → Printing
  | _, 0 => p
  | [], _ + 1 => p
  | c :: cs, fuel + 1 =>
    if p.ended.isSome then p
    else if c = '\\' then
      let (p, rest) := runEscape true p cs
      runEscapedText p rest fuel
    else runEscapedText (p.put [c.toNat.toUInt8]) cs fuel

/-! ### Directives -/

/-- Conversions and the flags that each refuses. -/
def conversionsAllowed (flags : List Char) (hasPrecision : Bool) : List Char :=
  let all := "aAcdeEfFgGiosuxX".toList
  let all := if flags.contains '\x27' || flags.contains 'I' then all.filter (!"aAceEosxX".contains ·) else all
  let all := if flags.contains '#' then all.filter (!"cdisu".contains ·) else all
  let all := if flags.contains '0' then all.filter (!"cs".contains ·) else all
  if hasPrecision then all.filter (· ≠ 'c') else all

/-- Takes the next argument, or the empty one when none is left. -/
def nextArg (args : List String) (used : Nat) : String × List String × Nat :=
  match args with
  | a :: more => (a, more, used + 1)
  | [] => ("", [], used)

/-- Runs one directive after its `%`: the run, the arguments left, how
    many this pass has taken, and the format after the directive. -/
def runDirective (p : Printing) (args : List String) (used : Nat) (cs : List Char) :
    Printing × List String × Nat × List Char :=
  match cs with
  | '%' :: rest => (p.put [0x25], args, used, rest)
  | 'b' :: rest =>
    match args with
    | a :: more => (runEscapedText p a.toList (a.length + 1), more, used + 1, rest)
    | [] => (p, args, used, rest)
  | 'q' :: rest =>
    match args with
    | a :: more => (p.put (bytesOf (shellQuoted a)), more, used + 1, rest)
    | [] => (p, args, used, rest)
  | _ =>
    let (flags, r1) := cs.span fun c => "\x27-+ #0I".contains c
    -- the width, from the digits or the next argument
    let (width, p, args, used, r2) : Option Int × Printing × List String × Nat × List Char :=
      match r1 with
      | '*' :: r =>
        match args with
        | a :: more =>
          let (v, p) := signedValue p a
          if v < -(Int.pow 2 31) || v ≥ Int.pow 2 31 then (some 0, p.fail ("invalid field width: " ++ quoteArg a), more, used + 1, r)
          else (some v, p, more, used + 1, r)
        | [] => (some 0, p, args, used, r)
      | r =>
        let (ds, r) := r.span Char.isDigit
        (if ds.isEmpty then none else some (Decimal.valueOf ds : Int), p, args, used, r)
    -- the precision, likewise
    let (hasPrecision, precision, p, args, used, r3) :
        Bool × Option Nat × Printing × List String × Nat × List Char :=
      match r2 with
      | '.' :: '*' :: r =>
        match args with
        | a :: more =>
          let (v, p) := signedValue p a
          if v ≥ Int.pow 2 31 then (true, none, p.fail ("invalid precision: " ++ quoteArg a), more, used + 1, r)
          else (true, if v < 0 then none else some v.toNat, p, more, used + 1, r)
        | [] => (true, some 0, p, args, used, r)
      | '.' :: r =>
        let (ds, r) := r.span Char.isDigit
        (true, some (Decimal.valueOf ds), p, args, used, r)
      | r => (false, none, p, args, used, r)
    if p.ended.isSome then (p, args, used, r3)
    else
      let r4 := r3.dropWhile fun c => "lLhjtz".contains c
      let directive := '%' :: cs.take (cs.length - r4.length)
      match r4 with
      | [] => (p.fail (String.ofList directive ++ ": invalid conversion specification"), args, used, [])
      | conv :: rest =>
        let directive := directive ++ [conv]
        if !(conversionsAllowed flags hasPrecision).contains conv then
          (p.fail (String.ofList directive ++ ": invalid conversion specification"), args, used, rest)
        else
          let flags := flags.filter (· ≠ 'I')
          let (flags, width) := match width with
            | some w => if w < 0 then (flags ++ ['-'], some w.natAbs) else (flags, some w.toNat)
            | none => (flags, none)
          let sp : Spec := { flags := flags, width := width, precision := precision, conv := conv }
          let (arg, args, used) := nextArg args used
          let text := fun (cs : List Char) => bytesOf (String.ofList cs)
          if conv = 'd' || conv = 'i' then
            let (v, p) := signedValue p arg
            (p.put (text (formatInt sp v)), args, used, rest)
          else if "ouxX".contains conv then
            let (v, p) := unsignedValue p arg
            (p.put (text (formatInt sp v)), args, used, rest)
          else if conv = 'c' then
            let chars := arg.toList.take 1
            (p.put (text (pad sp false (if chars.isEmpty then ['\x00'] else chars))), args, used, rest)
          else if conv = 's' then
            let chars := match precision with
              | some n => arg.toList.take n
              | none => arg.toList
            (p.put (text (pad sp false chars)), args, used, rest)
          else
            let (v, p) := floatValue p arg
            (p.put (bytesOf (FloatValue.format .extended flags width precision conv v)), args, used, rest)

/-- One pass over the format: the run, the arguments left and how many the
    pass took. -/
def printPass (p : Printing) (args : List String) (used : Nat) :
    List Char → (fuel : Nat) → Printing × List String × Nat
  | _, 0 => (p, args, used)
  | [], _ + 1 => (p, args, used)
  | c :: cs, fuel + 1 =>
    if p.ended.isSome then (p, args, used)
    else if c = '%' then
      let (p, args, used, rest) := runDirective p args used cs
      printPass p args used rest fuel
    else if c = '\\' then
      let (p, rest) := runEscape false p cs
      printPass p args used rest fuel
    else printPass (p.put [c.toNat.toUInt8]) args used cs fuel

/-- Uses the format again while arguments remain and the last pass took
    some. -/
def printPasses (format : List Char) (p : Printing) (args : List String) : (fuel : Nat) → Printing
  | 0 => p
  | fuel + 1 =>
    let (p, rest, used) := printPass p args 0 format (format.length + 1)
    if p.ended.isSome then p
    else if used > 0 && !rest.isEmpty then printPasses format p rest fuel
    else
      match rest with
      | a :: _ => p.note ("warning: ignoring excess arguments, starting with " ++ quoteArg a)
      | [] => p

/-- `printf FORMAT [ARGUMENT]…` as the program on the search path runs it;
    a first `--` is skipped. -/
def printfProgram (args : List String) : Result :=
  let args := match args with
    | "--" :: rest => rest
    | _ => args
  match args with
  | [] => { err := bytesOf "printf: missing operand\nTry 'printf --help' for more information.\n", status := 1 }
  | format :: rest =>
    let p := printPasses format.toList {} rest (rest.length + 1)
    { out := p.output, err := bytesOf p.errors, status := p.status, shown := some p.shown }

end ReplHost.Shell
