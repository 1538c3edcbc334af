import ReplHost.Shell.Output

/-! # Utilities that copy their input: `cat`, `head`, `tail` and `wc`

  Each reads the files its operands name in turn, standard input for `-`
  or when there is none, and writes what it makes of each. A file that
  cannot be read is reported and the next one is taken; the status is
  then 1.

  - `cat` copies; `-n` numbers the lines and `-b` the lines that are not
    empty, `-s` keeps one of several empty lines, `-E` marks line ends with
    `$`, `-T` writes tabs as `^I` and `-v` other control bytes as `^X`,
    `^?` and `M-…` (`-A` is `-vET`, `-e` is `-vE` and `-t` is `-vT`).
  - `head` writes the first 10 lines, or `-n K` lines, or `-c K` bytes;
    `-n -K` and `-c -K` all but the last K. `tail` writes the last ones, or
    from line (byte) K on with `+K`. Both put a header `==> NAME <==` before
    each file when there are several (`-q` never, `-v` always), and take
    the old forms `head -K` and `tail -K`, `tail +K`.
  - `wc` counts lines, words, bytes (`-c`), characters (`-m`) and the
    longest line (`-L`); by default lines, words and bytes. Each file gets
    a line of counts and its name, and a line `total` follows when there
    are several. The counts stand in columns as wide as the digits of the
    total size of the regular files, and at least 7 wide when one of the
    files is standard input or a directory; a single count of a single
    input stands alone.
-/

namespace ReplHost.Shell

/-- The files a utility reads: the operands, or standard input alone. -/
def inputNames (operands : List String) : List String :=
  if operands.isEmpty then ["-"] else operands

/-- The contents of the files named, in order: standard input for the first
    `-`, nothing for a later one, as it has been read to its end. -/
def readInputs (read : Reader) (stdin : List UInt8) (names : List String) :
    List (String × Except IoError (List UInt8)) :=
  let (_, out) := names.foldl (fun (acc : Bool × List (String × Except IoError (List UInt8))) n =>
    let (used, out) := acc
    if n = "-" then (true, (n, .ok (if used then [] else stdin)) :: out)
    else (used, (n, read n) :: out)) (false, [])
  out.reverse

/-- How a header or message names a file. -/
def displayName (name : String) : String := if name = "-" then standardInput else name

/-- The header before each file of `head` and `tail`. -/
def fileHeader (first : Bool) (name : String) : String :=
  (if first then "" else "\n") ++ "==> " ++ displayName name ++ " <==\n"

/-! ### `cat` -/

/-- The options of `cat`. -/
def catOptions : List OptionSpec :=
  [{ letter := 'A', long := "show-all", key := "A" },
   { letter := 'b', long := "number-nonblank", key := "b" },
   { letter := 'e', key := "e" },
   { letter := 'E', long := "show-ends", key := "E" },
   { letter := 'n', long := "number", key := "n" },
   { letter := 's', long := "squeeze-blank", key := "s" },
   { letter := 't', key := "t" },
   { letter := 'T', long := "show-tabs", key := "T" },
   { letter := 'u', key := "u" },
   { letter := 'v', long := "show-nonprinting", key := "v" },
   { long := "help", key := "help" },
   { long := "version", key := "version" }]

/-- What `cat` does to its input. -/
structure CatMode where
  numberAll : Bool := false
  numberNonblank : Bool := false
  squeeze : Bool := false
  showEnds : Bool := false
  showTabs : Bool := false
  showNonprinting : Bool := false

/-- Whether a mode copies the input unchanged. -/
def CatMode.plain (m : CatMode) : Bool :=
  !(m.numberAll || m.numberNonblank || m.squeeze || m.showEnds || m.showTabs || m.showNonprinting)

/-- The mode the options of `cat` set. -/
def catMode (opts : List GivenOption) : CatMode :=
  let has := GivenOption.has opts
  { numberAll := has "n", numberNonblank := has "b", squeeze := has "s",
    showEnds := has "E" || has "A" || has "e", showTabs := has "T" || has "A" || has "t",
    showNonprinting := has "v" || has "A" || has "e" || has "t" }

/-- How `-v` writes a byte that is not a tab or a line feed. -/
def visibleByte (b : UInt8) : List UInt8 :=
  let n := b.toNat
  let low := fun (k : Nat) =>
    if k < 32 then [0x5E, (k + 64).toUInt8]
    else if k = 127 then [0x5E, 0x3F]
    else [k.toUInt8]
  if n ≥ 128 then [0x4D, 0x2D] ++ low (n - 128) else low n

/-- Where `cat` is between lines, across its files: whether it stands at
    the start of a line, whether the last line was empty, and the number
    of the last line numbered. -/
structure CatState where
  atStart : Bool := true
  lastEmpty : Bool := false
  lineNo : Nat := 0

/-- The number `cat` writes before a line: six wide and a tab. -/
def lineNumber (n : Nat) : List UInt8 :=
  let ds := Decimal.render n
  bytesOf (String.ofList (List.replicate (6 - ds.length) ' ') ++ ds ++ "\t")

/-- Writes one line (with its line feed, if it has one) as `cat` does in
    mode `m`; an empty line after an empty one is dropped under `-s`. -/
def catLine (m : CatMode) (st : CatState) (line : List UInt8) : List UInt8 × CatState :=
  let ends := line.getLast? = some 0x0A
  let body := if ends then line.dropLast else line
  let empty := st.atStart && body.isEmpty && ends
  if m.squeeze && empty && st.lastEmpty then ([], st)
  else
    let numbered := st.atStart && (m.numberAll && !m.numberNonblank || m.numberNonblank && !empty)
    let lineNo := if numbered then st.lineNo + 1 else st.lineNo
    let shownBody := body.flatMap fun b =>
      if b = 0x09 then (if m.showTabs then [0x5E, 0x49] else [b])
      else if m.showNonprinting then visibleByte b else [b]
    let out := (if numbered then lineNumber lineNo else []) ++ shownBody ++
      (if ends then (if m.showEnds then [0x24, 0x0A] else [0x0A]) else [])
    (out, { atStart := ends, lastEmpty := empty, lineNo := lineNo })

/-- `cat [OPTION]… [FILE]…`. -/
def cat (read : Reader) (args : List String) (stdin : List UInt8) : Result :=
  match readOptions catOptions args with
  | .error e => { err := bytesOf (usageText "cat" e.message), status := 1 }
  | .ok (opts, operands) =>
    let m := catMode opts
    let (o, _, failed) := (readInputs read stdin (inputNames operands)).foldl
      (fun (acc : Output × CatState × Bool) (name, contents) =>
        let (o, st, failed) := acc
        match contents with
        | .error e => (o.complain ("cat: " ++ shellQuoted name ++ ": " ++ readError e ++ "\n"), st, true)
        | .ok bytes =>
          if m.plain then ((o.put bytes).flush, st, failed)
          else
            let (o, st) := (lines bytes).foldl (fun (acc : Output × CatState) l =>
              let (out, st) := catLine m acc.2 l
              (acc.1.put out, st)) (o, st)
            (o.flush, st, failed)) ({}, {}, false)
    o.result (if failed then 1 else 0)

/-! ### `head` and `tail` -/

/-- The power of the base a size suffix letter stands for. -/
def suffixPower (c : Char) : Option Nat :=
  match c with
  | 'k' | 'K' => some 1
  | 'm' | 'M' => some 2
  | 'G' => some 3
  | 'T' => some 4
  | 'P' => some 5
  | 'E' => some 6
  | 'Z' => some 7
  | 'Y' => some 8
  | 'R' => some 9
  | 'Q' => some 10
  | _ => none

/-- The multiplier of a size suffix: none, `b` (512), or a letter `K M G …`
    with powers of 1024, or of 1000 when `B` follows it (`KiB` is 1024). -/
def sizeMultiplier : List Char → Option Nat
  | [] => some 1
  | ['b'] => some 512
  | c :: rest =>
    (suffixPower c).bind fun k =>
      match rest with
      | [] | ['i', 'B'] => some (Nat.pow 1024 k)
      | ['B'] => some (Nat.pow 1000 k)
      | _ => none

/-- Reads a count with an optional size suffix, after blanks and a `+`. -/
def readCount (text : String) : Option Nat :=
  let cs := text.toList.dropWhile FloatValue.isSpace
  let cs := match cs with
    | '+' :: r => r
    | r => r
  let (ds, rest) := cs.span Char.isDigit
  if ds.isEmpty then none else (sizeMultiplier rest).map (Decimal.valueOf ds * ·)

/-- What `head` or `tail` counts and how many. -/
structure Span where
  /-- Lines, or bytes. -/
  lines : Bool := true
  count : Nat := 10
  /-- `head`: leave out the last `count`; `tail`: start at number `count`. -/
  other : Bool := false

/-- The options of `head`. -/
def headOptions : List OptionSpec :=
  [{ letter := 'c', long := "bytes", arg := .required, key := "c" },
   { letter := 'n', long := "lines", arg := .required, key := "n" },
   { letter := 'q', long := "quiet", key := "q" },
   { long := "silent", key := "q" },
   { letter := 'v', long := "verbose", key := "v" },
   { letter := 'z', long := "zero-terminated", key := "z" },
   { long := "help", key := "help" },
   { long := "version", key := "version" }]

/-- The options of `tail`. -/
def tailOptions : List OptionSpec :=
  [{ letter := 'c', long := "bytes", arg := .required, key := "c" },
   { letter := 'n', long := "lines", arg := .required, key := "n" },
   { letter := 'f', long := "follow", arg := .optional, key := "f" },
   { letter := 'F', key := "f" },
   { long := "retry", key := "retry" },
   { long := "pid", arg := .required, key := "pid" },
   { letter := 'q', long := "quiet", key := "q" },
   { long := "silent", key := "q" },
   { letter := 's', long := "sleep-interval", arg := .required, key := "s" },
   { letter := 'v', long := "verbose", key := "v" },
   { letter := 'z', long := "zero-terminated", key := "z" },
   { long := "help", key := "help" },
   { long := "version", key := "version" }]

/-- The span that the `-n` and `-c` options set, the last one winning;
    `other` is taken from the sign `sign` before the count. -/
def spanOf (prog : String) (sign : Char) (opts : List GivenOption) (start : Span) :
    Except String Span :=
  opts.foldl (fun (acc : Except String Span) o =>
    acc.bind fun sp =>
      if o.key = "n" || o.key = "c" then
        let v := o.value.getD ""
        let lines := o.key = "n"
        let (other, text) := match v.toList with
          | c :: r => if c = sign then (true, if sign = '-' then String.ofList r else v)
            else if c = '-' then (false, String.ofList r) else (false, v)
          | [] => (false, v)
        match readCount text with
        | some k => .ok { lines := lines, count := k, other := other }
        | none => .error (prog ++ ": invalid number of " ++ (if lines then "lines" else "bytes") ++
            ": " ++ quoteArg v ++ "\n")
      else .ok sp) (.ok start)

/-- The first pieces of a text: its first `k` lines (or bytes). -/
def headOf (sp : Span) (sep : UInt8) (bytes : List UInt8) : List UInt8 :=
  if sp.lines then
    let ls := linesBy sep bytes
    (if sp.other then ls.take (ls.length - sp.count) else ls.take sp.count).flatten
  else if sp.other then bytes.take (bytes.length - sp.count) else bytes.take sp.count
where
  /-- Splits bytes after each `sep`. -/
  linesBy (sep : UInt8) (bytes : List UInt8) : List (List UInt8) :=
    if sep = 0x0A then lines bytes
    else (lines (bytes.map fun b => if b = sep then 0x0A else if b = 0x0A then sep else b)).map
      (·.map fun b => if b = 0x0A then sep else if b = sep then 0x0A else b)

/-- The last pieces of a text: its last `k` lines (or bytes), or from
    number `k` on. -/
def tailOf (sp : Span) (sep : UInt8) (bytes : List UInt8) : List UInt8 :=
  if sp.lines then
    let ls := headOf.linesBy sep bytes
    (if sp.other then ls.drop (sp.count - 1) else ls.drop (ls.length - sp.count)).flatten
  else if sp.other then bytes.drop (sp.count - 1) else bytes.drop (bytes.length - sp.count)

/-- Runs `head` or `tail` over its inputs with a span. -/
def firstOrLast (prog : String) (read : Reader) (stdin : List UInt8) (opts : List GivenOption)
    (operands : List String) (sp : Span) : Result :=
  let names := inputNames operands
  let headers := !GivenOption.has opts "q" && (GivenOption.has opts "v" || names.length > 1)
  let sep : UInt8 := if GivenOption.has opts "z" then 0 else 0x0A
  let take := if prog = "head" then headOf sp sep else tailOf sp sep
  let (o, _, failed) := (readInputs read stdin names).foldl
    (fun (acc : Output × Bool × Bool) (name, contents) =>
      let (o, first, failed) := acc
      match contents with
      | .error (.os 21) =>
        let o := if headers then o.say (fileHeader first name) else o
        (o.complain (prog ++ ": error reading " ++ alwaysQuoted name ++ ": " ++
          Errno.message 21 ++ "\n"), false, true)
      | .error e =>
        (o.complain (prog ++ ": cannot open " ++ alwaysQuoted name ++ " for reading: " ++
          readError e ++ "\n"), first, true)
      | .ok bytes =>
        let o := if headers then o.say (fileHeader first name) else o
        (o.put (take bytes), false, failed)) ({}, true, false)
  o.result (if failed then 1 else 0)

/-- The old form of the first argument of `head`: `-K` and letters among
    `c b k m l q v z`; the span and the options it stands for. -/
def headObsolete (a : String) : Option (Except String (Span × List GivenOption)) :=
  match a.toList with
  | '-' :: d :: rest =>
    if !d.isDigit then none
    else
      let (ds, letters) := (d :: rest).span Char.isDigit
      some (letters.foldl (fun (acc : Except String (Span × Option Char × List GivenOption)) c =>
        acc.bind fun (sp, mult, opts) =>
          match c with
          | 'c' => .ok ({ sp with lines := false }, none, opts)
          | 'b' | 'k' | 'm' => .ok ({ sp with lines := false }, some c, opts)
          | 'l' => .ok ({ sp with lines := true }, mult, opts)
          | 'q' => .ok (sp, mult, opts ++ [{ key := "q" }])
          | 'v' => .ok (sp, mult, opts ++ [{ key := "v" }])
          | 'z' => .ok (sp, mult, opts ++ [{ key := "z" }])
          | _ => .error (usageText "head" ("invalid trailing option -- " ++ String.singleton c)))
        (.ok ({}, none, [])) |>.bind fun (sp, mult, opts) =>
          let text := String.ofList (ds ++ (match mult with | some m => [m] | none => []))
          match readCount text with
          | some k => .ok ({ sp with count := k }, opts)
          | none => .error ("head: invalid number of " ++ (if sp.lines then "lines" else "bytes") ++
              ": " ++ quoteArg text ++ "\n"))
  | _ => none

/-- What the arguments of `head` ask for: the span, the options and the
    operands, or the result of an error. -/
def headPlan (args : List String) : Except Result (Span × List GivenOption × List String) :=
  let (start, early, args) := match args with
    | a :: rest =>
      match headObsolete a with
      | some (.ok (sp, opts)) => (sp, opts, rest)
      | some (.error msg) => ({}, [{ key := "error", value := some msg }], [])
      | none => ({}, [], args)
    | [] => ({}, [], args)
  match GivenOption.last? early "error" with
  | some msg => .error { err := bytesOf msg, status := 1 }
  | none =>
    match readOptions headOptions args with
    | .error e => .error { err := bytesOf (usageText "head" e.message), status := 1 }
    | .ok (opts, operands) =>
      match spanOf "head" '-' opts start with
      | .error msg => .error { err := bytesOf msg, status := 1 }
      | .ok sp => .ok (sp, early ++ opts, operands)

/-- `head [OPTION]… [FILE]…`. -/
def head (read : Reader) (args : List String) (stdin : List UInt8) : Result :=
  match headPlan args with
  | .error r => r
  | .ok (sp, opts, operands) => firstOrLast "head" read stdin opts operands sp

/-- The old form of `tail`'s arguments: one argument `-K` or `+K` with an
    optional `b`, `c` or `l` and an optional `f`, and at most one file. -/
def tailObsolete : List String → Option (Except String Span × List String)
  | [a] => single a []
  | [a, f] => if f.startsWith "-" && f.length > 1 then none else single a [f]
  | _ => none
where
  /-- Reads the one argument. -/
  single (a : String) (files : List String) : Option (Except String Span × List String) :=
    let fromStart := a.startsWith "+"
    match a.toList with
    | c :: rest =>
      if c ≠ '+' && c ≠ '-' then none
      else if c = '-' && (rest.isEmpty || rest = ['c']) then none
      else
        let (ds, more) := rest.span Char.isDigit
        let (lines, mult, more) := match more with
          | 'b' :: r => (false, 512, r)
          | 'c' :: r => (false, 1, r)
          | 'l' :: r => (true, 1, r)
          | r => (true, 1, r)
        let more := match more with
          | 'f' :: r => r
          | r => r
        if !more.isEmpty then none
        else
          let count := if ds.isEmpty then 10 * mult else Decimal.valueOf ds * mult
          some (.ok { lines := lines, count := count, other := fromStart }, files)
    | [] => none

/-- `tail [OPTION]… [FILE]…`. -/
def tail (read : Reader) (args : List String) (stdin : List UInt8) : Result :=
  match tailObsolete args with
  | some (.ok sp, files) => firstOrLast "tail" read stdin [] files sp
  | some (.error msg, _) => { err := bytesOf msg, status := 1 }
  | none =>
    match readOptions tailOptions args with
    | .error e => { err := bytesOf (usageText "tail" e.message), status := 1 }
    | .ok (opts, operands) =>
      match spanOf "tail" '+' opts {} with
      | .error msg => { err := bytesOf msg, status := 1 }
      | .ok sp => firstOrLast "tail" read stdin opts operands sp

/-! ### `wc` -/

/-- The options of `wc`. -/
def wcOptions : List OptionSpec :=
  [{ letter := 'c', long := "bytes", key := "c" },
   { letter := 'm', long := "chars", key := "m" },
   { letter := 'l', long := "lines", key := "l" },
   { letter := 'w', long := "words", key := "w" },
   { letter := 'L', long := "max-line-length", key := "L" },
   { long := "total", arg := .required, key := "total" },
   { long := "help", key := "help" },
   { long := "version", key := "version" }]

/-- The counts of one input: lines, words, characters, bytes and the
    width of the longest line. -/
structure Counts where
  lines : Nat := 0
  words : Nat := 0
  chars : Nat := 0
  bytes : Nat := 0
  longest : Nat := 0
  deriving DecidableEq, Repr

/-- The counts of two inputs together; the longest line is the longer. -/
def Counts.add (a b : Counts) : Counts :=
  ⟨a.lines + b.lines, a.words + b.words, a.chars + b.chars, a.bytes + b.bytes, max a.longest b.longest⟩

/-- Whether a byte separates words. -/
def isBlankByte (b : UInt8) : Bool := b = 0x20 || (0x09 ≤ b && b ≤ 0x0D)

/-- Counts bytes: the counts, whether the last byte was inside a word, and
    the width of the line so far. -/
def countBytes (acc : Counts × Bool × Nat) (b : UInt8) : Counts × Bool × Nat :=
  let (c, inWord, pos) := acc
  let c := { c with bytes := c.bytes + 1, chars := c.chars + 1 }
  let c := if b = 0x0A then { c with lines := c.lines + 1 } else c
  let (c, inWord) :=
    if isBlankByte b then (c, false)
    else if inWord then (c, true) else ({ c with words := c.words + 1 }, true)
  let pos' :=
    if b = 0x0A || b = 0x0D || b = 0x0C then 0
    else if b = 0x09 then pos + 8 - pos % 8
    else if 0x20 ≤ b && b < 0x7F then pos + 1
    else pos
  let longest := if b = 0x0A || b = 0x0D || b = 0x0C then max c.longest pos else max c.longest pos'
  ({ c with longest := longest }, inWord, pos')

/-- The counts of an input. -/
def countsOf (bytes : List UInt8) : Counts := (bytes.foldl countBytes ({}, false, 0)).1

/-- `wc [OPTION]… [FILE]…`. -/
def wc (read : Reader) (args : List String) (stdin : List UInt8) : Result :=
  match readOptions wcOptions args with
  | .error e => { err := bytesOf (usageText "wc" e.message), status := 1 }
  | .ok (opts, operands) =>
    let has := GivenOption.has opts
    let chosen := ["l", "w", "m", "c", "L"].filter has
    let chosen := if chosen.isEmpty then ["l", "w", "c"] else chosen
    let names := inputNames operands
    let inputs := readInputs read stdin names
    let single := names.length = 1 && chosen.length = 1
    let standing := inputs.map fun (n, r) => match r with
      | .ok bs => if n = "-" then some (7, 0) else some (1, bs.length)
      | .error (.os 21) => some (7, 0)
      | .error _ => none
    let width :=
      if single then 1
      else match standing with
        | none :: _ => 1
        | _ =>
          let found := standing.filterMap id
          let least := found.foldl (fun m (w, _) => max m w) 1
          max least (Decimal.render (found.foldl (fun s (_, size) => s + size) 0)).length
    let row := fun (c : Counts) (label : Option String) =>
      let nums := ["l", "w", "m", "c", "L"].filter chosen.contains |>.map fun k =>
        let v := if k = "l" then c.lines else if k = "w" then c.words else if k = "m" then c.chars
          else if k = "c" then c.bytes else c.longest
        let ds := Decimal.render v
        String.ofList (List.replicate (width - ds.length) ' ') ++ ds
      " ".intercalate nums ++ (match label with | some l => " " ++ l | none => "") ++ "\n"
    let (o, total, failed) := inputs.foldl (fun (acc : Output × Counts × Bool) (name, contents) =>
      let (o, total, failed) := acc
      let label := if operands.isEmpty then none else some (shellQuoted name)
      match contents with
      | .ok bytes =>
        let c := countsOf bytes
        (o.say (row c label), total.add c, failed)
      | .error (.os 21) =>
        ((o.complain ("wc: " ++ shellQuoted name ++ ": " ++ Errno.message 21 ++ "\n")).say (row {} label),
          total, true)
      | .error e => (o.complain ("wc: " ++ shellQuoted name ++ ": " ++ readError e ++ "\n"), total, true))
      ({}, {}, false)
    let totalMode := (GivenOption.last? opts "total").getD "auto"
    let o := if totalMode = "always" || (totalMode = "auto" && names.length > 1) then o.say (row total (some "total"))
      else if totalMode = "only" then o.say (row total none) else o
    o.result (if failed then 1 else 0)

end ReplHost.Shell
