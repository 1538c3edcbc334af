import ReplHost.Shell.Filters

/-! # Sorting lines: `sort` and `uniq`

  `sort` orders the lines of its inputs, byte by byte as in the C locale.

  - Keys (`-k F[.C][OPTS][,F[.C][OPTS]]`) pick part of a line: from field F,
    character C (the first when not given), to the end of a field (its
    last character when C is not given) or of the line. Fields are
    separated by the character `-t` gives, or else each field is the blanks
    before it and the non-blanks after them.
  - A key compares as text, or as a number (`-n`: a sign, digits and a
    fraction after blanks, anything else zero), as a floating-point number
    (`-g`: what does not read as one first), as a number with a unit
    suffix (`-h`), as a month name (`-M`), or as a version (`-V`); `-b`
    skips blanks at its ends, `-d` looks only at letters, digits and
    blanks, `-i` only at printing characters, `-f` folds lower case to upper
    and `-r` reverses. A key with no options of its own takes those given
    for the whole line.
  - Lines whose keys all compare equal are ordered byte by byte, in reverse
    under `-r`, unless `-s` keeps them in their input order or `-u` keeps
    only the first of them. Without keys, options for the whole line make
    one key of it.
  - `-c` reports the first line out of order instead of sorting (`-C`
    only fails), and `-z` separates lines by zero bytes.

  `uniq` writes one line of each run of neighbouring equal lines: `-c`
  puts the run's length before it, `-d` keeps runs of more than one line
  and `-u` runs of one, `-D` writes every line of the runs of more than one.
  Lines compare after skipping `-f N` fields and `-s N` characters, on at
  most `-w N` characters, ignoring case under `-i`.
-/

namespace ReplHost.Shell

/-- How a key compares. -/
inductive KeyOrder where
  | text
  | numeric
  | general
  | human
  | month
  | version
  | random
  deriving DecidableEq, Repr

/-- A key of `sort`: where it starts and ends in a line, and how it
    compares. Fields and characters are counted from zero; no start field
    means the start of the line, no end field its end, and an end character
    of zero the end of the end field. -/
structure SortKey where
  startField : Option Nat := none
  startChar : Nat := 0
  endField : Option Nat := none
  endChar : Nat := 0
  skipStartBlanks : Bool := false
  skipEndBlanks : Bool := false
  dictionary : Bool := false
  printableOnly : Bool := false
  fold : Bool := false
  order : KeyOrder := .text
  reverse : Bool := false
  deriving Repr

/-- Whether a key has no ordering options: then it takes those given for
    the whole line. -/
def SortKey.plain (k : SortKey) : Bool :=
  !(k.dictionary || k.printableOnly || k.fold || k.skipStartBlanks || k.skipEndBlanks) &&
    k.order = .text

/-- Sets the ordering options of the letters in `cs`; `b` applies to the
    start (`start`) or the end of the key. Returns the key and what follows
    the letters. -/
def orderingLetters (start : Bool) (k : SortKey) : List Char → SortKey × List Char
  | [] => (k, [])
  | c :: rest =>
    let k' : Option SortKey := match c with
      | 'b' => some (if start then { k with skipStartBlanks := true } else { k with skipEndBlanks := true })
      | 'd' => some { k with dictionary := true }
      | 'f' => some { k with fold := true }
      | 'g' => some { k with order := .general }
      | 'h' => some { k with order := .human }
      | 'i' => some { k with printableOnly := true }
      | 'M' => some { k with order := .month }
      | 'n' => some { k with order := .numeric }
      | 'R' => some { k with order := .random }
      | 'r' => some { k with reverse := true }
      | 'V' => some { k with order := .version }
      | _ => none
    match k' with
    | some k' => orderingLetters start k' rest
    | none => (k, c :: rest)

/-- The message of a bad key. -/
def badKey (why spec : String) : String := why ++ ": invalid field specification " ++ quoteArg spec

/-- Reads a count of a key; the error names what was expected. -/
def keyCount (why : String) (cs : List Char) : Except String (Nat × List Char) :=
  let (ds, rest) := cs.span Char.isDigit
  if ds.isEmpty then .error (why ++ ": invalid count at start of " ++ quoteArg (String.ofList cs))
  else .ok (Decimal.valueOf ds, rest)

/-- Reads a key definition `F[.C][OPTS][,F[.C][OPTS]]`. -/
def readKey (spec : String) : Except String SortKey := do
  let (f, rest) ← keyCount "invalid number at field start" spec.toList
  if f = 0 then throw (badKey "field number is zero" spec)
  let (c, rest) ← match rest with
    | '.' :: r => do
      let (c, r) ← keyCount "invalid number after '.'" r
      if c = 0 then throw (badKey "character offset is zero" spec)
      pure (c - 1, r)
    | r => pure (0, r)
  let k : SortKey := { startField := if f = 1 && c = 0 then none else some (f - 1), startChar := c }
  let (k, rest) := orderingLetters true k rest
  let (k, rest) ← match rest with
    | ',' :: r => do
      let (e, r) ← keyCount "invalid number after ','" r
      if e = 0 then throw (badKey "field number is zero" spec)
      let (ec, r) ← match r with
        | '.' :: r2 => keyCount "invalid number after '.'" r2
        | r2 => pure (0, r2)
      let (k, r) := orderingLetters false { k with endField := some (e - 1), endChar := ec } r
      pure (k, r)
    | r => pure (k, r)
  if !rest.isEmpty then throw (badKey "stray character in field spec" spec)
  pure k

/-! ### Finding keys in a line -/

/-- Whether a byte is a blank: a space or a tab. -/
def isBlank (b : UInt8) : Bool := b = 0x20 || b = 0x09

/-- Skips blanks from place `i`. -/
def skipBlanks (bytes : Array UInt8) (i : Nat) (fuel : Nat) : Nat :=
  match fuel with
  | 0 => i
  | fuel + 1 => if h : i < bytes.size then (if isBlank bytes[i] then skipBlanks bytes (i + 1) fuel else i) else i

/-- Skips bytes that are not blanks (or not the separator) from `i`. -/
def skipWord (bytes : Array UInt8) (tab : Option UInt8) (i : Nat) (fuel : Nat) : Nat :=
  match fuel with
  | 0 => i
  | fuel + 1 =>
    if h : i < bytes.size then
      let b := bytes[i]
      let stop := match tab with
        | some t => b == t
        | none => isBlank b
      if stop then i else skipWord bytes tab (i + 1) fuel
    else i

/-- Passes `n` fields from place `i`. Without a separator a field is the
    blanks before it and the bytes up to the next blank. With one, the
    separator after each field is passed too, unless `keepLast` and it is
    the last. -/
def passFields (bytes : Array UInt8) (tab : Option UInt8) (keepLast : Bool) (i : Nat) : Nat → Nat
  | 0 => i
  | n + 1 =>
    if i ≥ bytes.size then i
    else
      match tab with
      | some _ =>
        let j := skipWord bytes tab i bytes.size
        let j := if j < bytes.size && (n > 0 || !keepLast) then j + 1 else j
        passFields bytes tab keepLast j n
      | none =>
        let j := skipWord bytes tab (skipBlanks bytes i bytes.size) bytes.size
        passFields bytes tab keepLast j n

/-- Where a key starts in a line. -/
def keyStart (line : Array UInt8) (tab : Option UInt8) (k : SortKey) : Nat :=
  match k.startField with
  | none => if k.skipStartBlanks then skipBlanks line 0 line.size else 0
  | some f =>
    let i := passFields line tab false 0 f
    let i := if k.skipStartBlanks then skipBlanks line i line.size else i
    min line.size (i + k.startChar)

/-- Where a key ends in a line. -/
def keyEnd (line : Array UInt8) (tab : Option UInt8) (k : SortKey) : Nat :=
  match k.endField with
  | none => line.size
  | some e =>
    let n := if k.endChar = 0 then e + 1 else e
    let i := passFields line tab (k.endChar = 0) 0 n
    if k.endChar = 0 then i
    else
      let i := if k.skipEndBlanks then skipBlanks line i line.size else i
      min line.size (i + k.endChar)

/-- The bytes of a key in a line. -/
def keyBytes (line : Array UInt8) (tab : Option UInt8) (k : SortKey) : List UInt8 :=
  let a := keyStart line tab k
  let b := keyEnd line tab k
  (line.extract a (max a b)).toList

/-! ### Comparing keys -/

/-- The number at the front of a key as `-n` reads it after blanks: a
    minus sign, digits and a fraction, as a numerator over a power of ten. -/
def leadingDecimal (bs : List UInt8) : Int × Nat :=
  let cs := (bs.dropWhile isBlank).map fun b => Char.ofNat b.toNat
  let (neg, ds) := match cs with
    | '-' :: r => (true, r)
    | r => (false, r)
  let whole := ds.takeWhile Char.isDigit
  let frac := match ds.dropWhile Char.isDigit with
    | '.' :: r => r.takeWhile Char.isDigit
    | _ => []
  let v : Int := Decimal.valueOf (whole ++ frac)
  (if neg then -v else v, frac.length)

/-- Compares two decimals. -/
def compareDecimal (a b : Int × Nat) : Ordering := compare (a.1 * Int.pow 10 b.2) (b.1 * Int.pow 10 a.2)

/-- The unit of a number for `-h`: 0 for none, then `K` (or `k`), `M`,
    `G`, `T`, `P`, `E`, `Z`, `Y`, `R`, `Q`; negative for a negative number,
    and 0 for a zero. -/
def unitOrder (bs : List UInt8) : Int :=
  let cs := (bs.dropWhile isBlank).map fun b => Char.ofNat b.toNat
  let (neg, ds) := match cs with
    | '-' :: r => (true, r)
    | r => (false, r)
  let (whole, rest) := ds.span Char.isDigit
  let (frac, rest) := match rest with
    | '.' :: r => r.span Char.isDigit
    | r => ([], r)
  if (whole ++ frac).all (· = '0') then 0
  else
    let order : Int := match rest.head? with
      | some c => (("KMGTPEZYRQ".toList.idxOf? c).map (· + 1 : Nat → Nat)).getD (if c = 'k' then 1 else 0)
      | none => 0
    if neg then -order else order

/-- The month a key names by its first three letters after blanks, 1 to
    12, or 0. -/
def monthOf (bs : List UInt8) : Nat :=
  let cs := ((bs.dropWhile isBlank).take 3).map fun b => (Char.ofNat b.toNat).toUpper
  let names := ["JAN", "FEB", "MAR", "APR", "MAY", "JUN", "JUL", "AUG", "SEP", "OCT", "NOV", "DEC"]
  ((names.idxOf? (String.ofList cs)).map (· + 1)).getD 0

/-- The rank of a byte in a version comparison: digits rank alike, then
    the end of the text sorts before all but `~`, letters before other
    bytes. -/
def versionRank (b : Option UInt8) : Int :=
  match b with
  | none => -1
  | some b =>
    let c := Char.ofNat b.toNat
    if c.isDigit then 0
    else if c.isAlpha then b.toNat
    else if c = '~' then -2
    else b.toNat + 256

/-- Compares versions from places `i` and `j`: runs of other bytes by
    rank, runs of digits by value. -/
def versionCompare (a b : Array UInt8) (i j : Nat) : (fuel : Nat) → Int
  | 0 => 0
  | fuel + 1 =>
    if i ≥ a.size && j ≥ b.size then 0
    else
      let isDigitAt := fun (s : Array UInt8) (k : Nat) => (s[k]?.map fun x => (Char.ofNat x.toNat).isDigit).getD false
      if (i < a.size && !isDigitAt a i) || (j < b.size && !isDigitAt b j) then
        let ra := versionRank a[i]?
        let rb := versionRank b[j]?
        if ra ≠ rb then ra - rb else versionCompare a b (i + 1) (j + 1) fuel
      else
        let zeros := fun (s : Array UInt8) (k : Nat) =>
          k + ((s.toList.drop k).takeWhile (· = 0x30)).length
        let i := zeros a i
        let j := zeros b j
        let da := ((a.toList.drop i).takeWhile fun x => (Char.ofNat x.toNat).isDigit).length
        let db := ((b.toList.drop j).takeWhile fun x => (Char.ofNat x.toNat).isDigit).length
        if da ≠ db then (if da > db then 1 else -1)
        else
          let first := ((List.range da).find? fun k => a[i + k]? ≠ b[j + k]?).map fun k =>
            ((a[i + k]?.map UInt8.toNat).getD 0 : Int) - ((b[j + k]?.map UInt8.toNat).getD 0 : Int)
          match first with
          | some d => d
          | none => versionCompare a b (i + da) (j + db) fuel

/-- How long a name is without its suffix: the longest end made of `.`
    and a letter or `~`, then letters, digits and `~`, any number of times. -/
def versionStem (s : List UInt8) : Nat :=
  let isAlpha := fun (b : UInt8) => (Char.ofNat b.toNat).isAlpha
  let isAlnum := fun (b : UInt8) => (Char.ofNat b.toNat).isAlphanum
  let rec go (i stem : Nat) (rest : List UInt8) (fuel : Nat) : Nat :=
    match fuel, rest with
    | 0, _ | _, [] => stem
    | fuel + 1, _ :: more =>
      let i := i + 1
      let rec suffix (i : Nat) (rest : List UInt8) (fuel : Nat) : Nat × List UInt8 :=
        match fuel, rest with
        | fuel + 1, 0x2E :: c :: more =>
          if isAlpha c || c = 0x7E then
            let body := more.takeWhile fun x => isAlnum x || x = 0x7E
            suffix (i + 2 + body.length) (more.drop body.length) fuel
          else (i, rest)
        | _, _ => (i, rest)
      let (j, rest) := suffix i more more.length
      if j = i then go i i more fuel else if rest.isEmpty then i else go j i rest fuel
  go 0 0 s s.length

/-- Compares two versions as `sort -V` does: empty first, then `.`, `..`
    and other names with a leading `.`, then the rest by their stems and,
    when those tie, in full. -/
def compareVersions (a b : List UInt8) : Ordering :=
  let sign := fun (d : Int) => if d < 0 then Ordering.lt else if d > 0 then .gt else .eq
  match a, b with
  | [], [] => .eq
  | [], _ => .lt
  | _, [] => .gt
  | _, _ =>
    let dotted := fun (s : List UInt8) => s.head? = some 0x2E
    if dotted a && !dotted b then .lt
    else if !dotted a && dotted b then .gt
    else if dotted a && (a = [0x2E] || b = [0x2E]) then
      (if a = [0x2E] then (if b = [0x2E] then .eq else .lt) else .gt)
    else if dotted a && (a = [0x2E, 0x2E] || b = [0x2E, 0x2E]) then
      (if a = [0x2E, 0x2E] then (if b = [0x2E, 0x2E] then .eq else .lt) else .gt)
    else
      let sa := versionStem a
      let sb := versionStem b
      let fuel := a.length + b.length + 2
      let first := versionCompare (a.take sa).toArray (b.take sb).toArray 0 0 fuel
      if first ≠ 0 || (sa = a.length && sb = b.length) then sign first
      else sign (versionCompare a.toArray b.toArray 0 0 fuel)

/-- Compares keys as text: bytes left out by `-d` or `-i` are skipped and
    `-f` folds lower case to upper. -/
def compareText (k : SortKey) (a b : List UInt8) : Ordering :=
  let kept := fun (x : UInt8) =>
    let c := Char.ofNat x.toNat
    if k.dictionary then c.isAlphanum || isBlank x
    else if k.printableOnly then 0x20 ≤ x && x < 0x7F
    else true
  let mapped := fun (s : List UInt8) =>
    (s.filter kept).map fun x => if k.fold && 0x61 ≤ x && x ≤ 0x7A then x - 32 else x
  compareBytes (mapped a) (mapped b)
where
  /-- Compares byte strings. -/
  compareBytes : List UInt8 → List UInt8 → Ordering
    | [], [] => .eq
    | [], _ => .lt
    | _, [] => .gt
    | x :: xs, y :: ys => if x = y then compareBytes xs ys else compare x y

/-- Compares keys as floating-point numbers: text that is not one first. -/
def compareGeneral (a b : List UInt8) : Ordering :=
  let num := fun (s : List UInt8) => (FloatValue.read .extended (s.map fun x => Char.ofNat x.toNat)).map (·.1)
  match num a, num b with
  | none, none => .eq
  | none, _ => .lt
  | _, none => .gt
  | some x, some y =>
    match x.compareTo y with
    | some o => o
    | none => if x.isNaN && y.isNaN then .eq else if x.isNaN then .lt else .gt

/-- Compares two keys by one key definition, before `-r`. -/
def compareKey (k : SortKey) (a b : List UInt8) : Ordering :=
  match k.order with
  | .numeric => compareDecimal (leadingDecimal a) (leadingDecimal b)
  | .general => compareGeneral a b
  | .human =>
    match compare (unitOrder a) (unitOrder b) with
    | .eq => compareDecimal (leadingDecimal a) (leadingDecimal b)
    | o => o
  | .month => compare (monthOf a) (monthOf b)
  | .version => compareVersions a b
  | _ => compareText k a b

/-! ### `sort` -/

/-- What `sort` was asked to do. -/
structure SortPlan where
  keys : List SortKey := []
  tab : Option UInt8 := none
  reverse : Bool := false
  unique : Bool := false
  stable : Bool := false
  check : Option Bool := none
  separator : UInt8 := 0x0A

/-- A line with its keys. -/
structure SortLine where
  line : List UInt8
  keys : List (List UInt8)

/-- The keys of a line. -/
def SortPlan.prepare (p : SortPlan) (line : List UInt8) : SortLine :=
  let arr := line.toArray
  { line := line, keys := p.keys.map (keyBytes arr p.tab) }

/-- Compares two lines. -/
def SortPlan.compareLines (p : SortPlan) (a b : SortLine) : Ordering :=
  let byKeys := ((p.keys.zip (a.keys.zip b.keys)).map fun (k, x, y) =>
    let o := compareKey k x y
    if k.reverse then o.swap else o).find? (· ≠ .eq)
  match byKeys with
  | some o => o
  | none =>
    if !p.keys.isEmpty && (p.unique || p.stable) then .eq
    else
      let o := compareText.compareBytes a.line b.line
      if p.reverse then o.swap else o

/-- The options of `sort`. -/
def sortOptions : List OptionSpec :=
  [{ letter := 'b', long := "ignore-leading-blanks", key := "b" },
   { letter := 'd', long := "dictionary-order", key := "d" },
   { letter := 'f', long := "ignore-case", key := "f" },
   { letter := 'g', long := "general-numeric-sort", key := "g" },
   { letter := 'h', long := "human-numeric-sort", key := "h" },
   { letter := 'i', long := "ignore-nonprinting", key := "i" },
   { letter := 'M', long := "month-sort", key := "M" },
   { letter := 'n', long := "numeric-sort", key := "n" },
   { letter := 'R', long := "random-sort", key := "R" },
   { letter := 'r', long := "reverse", key := "r" },
   { letter := 'V', long := "version-sort", key := "V" },
   { long := "sort", arg := .required, key := "sort" },
   { letter := 'c', long := "check", arg := .optional, key := "c" },
   { letter := 'C', key := "C" },
   { letter := 'k', long := "key", arg := .required, key := "k" },
   { letter := 'm', long := "merge", key := "m" },
   { letter := 'o', long := "output", arg := .required, key := "o" },
   { letter := 's', long := "stable", key := "s" },
   { letter := 'S', long := "buffer-size", arg := .required, key := "S" },
   { letter := 't', long := "field-separator", arg := .required, key := "t" },
   { letter := 'T', long := "temporary-directory", arg := .required, key := "T" },
   { letter := 'u', long := "unique", key := "u" },
   { letter := 'z', long := "zero-terminated", key := "z" },
   { long := "parallel", arg := .required, key := "parallel" },
   { long := "debug", key := "debug" },
   { long := "help", key := "help" },
   { long := "version", key := "version" }]

/-- The plan the options of `sort` give, or the error. -/
def sortPlan (opts : List GivenOption) : Except String SortPlan := do
  let global := opts.foldl (fun (k : SortKey) o =>
    match o.key with
    | "b" => { k with skipStartBlanks := true, skipEndBlanks := true }
    | "d" => { k with dictionary := true }
    | "f" => { k with fold := true }
    | "g" => { k with order := .general }
    | "h" => { k with order := .human }
    | "i" => { k with printableOnly := true }
    | "M" => { k with order := .month }
    | "n" => { k with order := .numeric }
    | "R" => { k with order := .random }
    | "r" => { k with reverse := true }
    | "V" => { k with order := .version }
    | "sort" =>
      match o.value.getD "" with
      | "general-numeric" => { k with order := .general }
      | "human-numeric" => { k with order := .human }
      | "month" => { k with order := .month }
      | "numeric" => { k with order := .numeric }
      | "random" => { k with order := .random }
      | "version" => { k with order := .version }
      | _ => k
    | _ => k) {}
  let keys ← opts.foldlM (fun (ks : List SortKey) o =>
    if o.key = "k" then do
      let k ← readKey (o.value.getD "")
      let k := if k.plain && !k.reverse then
          { k with skipStartBlanks := global.skipStartBlanks, skipEndBlanks := global.skipEndBlanks,
                   dictionary := global.dictionary, printableOnly := global.printableOnly,
                   fold := global.fold, order := global.order, reverse := global.reverse }
        else k
      pure (ks ++ [k])
    else pure ks) []
  let keys := if keys.isEmpty && !global.plain then [{ global with startField := none }] else keys
  let tab ← opts.foldlM (fun (t : Option UInt8) o =>
    if o.key = "t" then
      let v := o.value.getD ""
      match v.toList with
      | [] => throw "empty tab"
      | [c] => pure (some c.toNat.toUInt8)
      | ['\\', '0'] => pure (some 0)
      | _ => throw ("multi-character tab " ++ quoteArg v)
    else pure t) none
  let check : Option Bool :=
    if GivenOption.has opts "C" then some false
    else if GivenOption.has opts "c" then
      match GivenOption.last? opts "c" with
      | some "quiet" | some "silent" => some false
      | _ => some true
    else none
  pure { keys := keys, tab := tab, reverse := global.reverse, unique := GivenOption.has opts "u",
         stable := GivenOption.has opts "s", check := check,
         separator := if GivenOption.has opts "z" then 0 else 0x0A }

/-- Splits an input into lines by a separator, without the separators. -/
def splitRecords (sep : UInt8) (bytes : List UInt8) : List (List UInt8) :=
  let pieces := headOf.linesBy sep bytes
  pieces.map fun l => if l.getLast? = some sep then l.dropLast else l

/-- Keeps the first of each run of lines that compare equal. -/
def firstOfRuns (p : SortPlan) : List SortLine → List SortLine
  | [] => []
  | l :: rest =>
    let (_, acc) := rest.foldl (fun (acc : SortLine × List SortLine) x =>
      if p.compareLines acc.1 x = .eq then acc else (x, x :: acc.2)) (l, [l])
    acc.reverse

/-- `sort [OPTION]… [FILE]…`. -/
def sort (read : Reader) (args : List String) (stdin : List UInt8) : Result :=
  let fail := fun (msg : String) => { err := bytesOf ("sort: " ++ msg ++ "\n"), status := 2 : Result }
  match readOptions sortOptions args with
  | .error e => { err := bytesOf (usageText "sort" e.message), status := 2 }
  | .ok (opts, operands) =>
    match sortPlan opts with
    | .error msg => fail msg
    | .ok p =>
      let names := inputNames operands
      let inputs := readInputs read stdin names
      match inputs.find? (fun (_, r) => match r with
          | .error (.os 21) => false
          | .error _ => true
          | .ok _ => false) with
      | some (n, .error e) => fail ("cannot read: " ++ shellQuoted n ++ ": " ++ readError e)
      | _ =>
        match inputs.find? (fun (_, r) => match r with
            | .error _ => true
            | .ok _ => false) with
        | some (n, .error e) => fail ("read failed: " ++ shellQuoted n ++ ": " ++ readError e)
        | _ =>
          let records := inputs.flatMap fun (_, r) => match r with
            | .ok bs => splitRecords p.separator bs
            | .error _ => []
          let lines := records.map p.prepare
          match p.check with
          | some diagnose =>
            let bad := (lines.zip (lines.drop 1)).zipIdx.find? fun ((a, b), _) =>
              let o := p.compareLines a b
              o = .gt || (p.unique && o = .eq)
            match bad with
            | some ((_, b), i) =>
              if diagnose then
                { err := bytesOf ("sort: " ++ names.headD "-" ++ ":" ++ Decimal.render (i + 2) ++
                    ": disorder: " ++ textOf b.line ++ "\n"), status := 1 }
              else { status := 1 }
            | none => {}
          | none =>
            let sorted := lines.mergeSort fun a b => p.compareLines a b ≠ .gt
            let sorted := if p.unique then firstOfRuns p sorted else sorted
            { out := sorted.flatMap fun l => l.line ++ [p.separator] }

/-! ### `uniq` -/

/-- The options of `uniq`. -/
def uniqOptions : List OptionSpec :=
  [{ letter := 'c', long := "count", key := "c" },
   { letter := 'd', long := "repeated", key := "d" },
   { letter := 'D', key := "D" },
   { long := "all-repeated", arg := .optional, key := "D" },
   { letter := 'f', long := "skip-fields", arg := .required, key := "f" },
   { long := "group", arg := .optional, key := "group" },
   { letter := 'i', long := "ignore-case", key := "i" },
   { letter := 's', long := "skip-chars", arg := .required, key := "s" },
   { letter := 'u', long := "unique", key := "u" },
   { letter := 'w', long := "check-chars", arg := .required, key := "w" },
   { letter := 'z', long := "zero-terminated", key := "z" },
   { long := "help", key := "help" },
   { long := "version", key := "version" }]

/-- The part of a line `uniq` compares. -/
def uniqKey (fields chars : Nat) (width : Option Nat) (fold : Bool) (line : List UInt8) : List UInt8 :=
  let arr := line.toArray
  let i := passFields arr none false 0 fields
  let i := min arr.size (i + chars)
  let key := line.drop i
  let key := match width with
    | some w => key.take w
    | none => key
  if fold then key.map fun x => if 0x61 ≤ x && x ≤ 0x7A then x - 32 else x else key

/-- Groups neighbouring lines with equal keys. -/
def runsBy (key : List UInt8 → List UInt8) : List (List UInt8) → List (List (List UInt8))
  | [] => []
  | l :: rest =>
    let (cur, _, acc) := rest.foldl (fun (acc : List (List UInt8) × List UInt8 × List (List (List UInt8))) x =>
      let (cur, k, done) := acc
      let kx := key x
      if kx = k then (x :: cur, k, done) else ([x], kx, cur.reverse :: done)) ([l], key l, [])
    (cur.reverse :: acc).reverse

/-- `uniq [OPTION]… [INPUT [OUTPUT]]`. -/
def uniq (read : Reader) (args : List String) (stdin : List UInt8) : Result :=
  match readOptions uniqOptions args with
  | .error e => { err := bytesOf (usageText "uniq" e.message), status := 1 }
  | .ok (opts, operands) =>
    let number := fun (key msg : String) =>
      match GivenOption.last? opts key with
      | none => Except.ok (none : Option Nat)
      | some v =>
        match readCount v with
        | some n => .ok (some n)
        | none => .error ("uniq: " ++ v ++ ": " ++ msg ++ "\n")
    match number "f" "invalid number of fields to skip", number "s" "invalid number of bytes to skip",
        number "w" "invalid number of bytes to compare" with
    | .error m, _, _ | _, .error m, _ | _, _, .error m => { err := bytesOf m, status := 1 }
    | .ok fields, .ok chars, .ok width =>
      if operands.length > 2 then
        { err := bytesOf (usageText "uniq" ("extra operand " ++ quoteArg ((operands.drop 2).headD ""))),
          status := 1 }
      else if GivenOption.has opts "D" && GivenOption.has opts "c" then
        { err := bytesOf (usageText "uniq" "printing all duplicated lines and repeat counts is meaningless"),
          status := 1 }
      else
        let name := operands.headD "-"
        match (readInputs read stdin [name]).head? with
        | some (_, .error e) =>
          { err := bytesOf ("uniq: " ++ shellQuoted name ++ ": " ++ readError e ++ "\n"), status := 1 }
        | _ =>
          let bytes := match (readInputs read stdin [name]).head? with
            | some (_, .ok bs) => bs
            | _ => []
          let sep : UInt8 := if GivenOption.has opts "z" then 0 else 0x0A
          let key := uniqKey (fields.getD 0) (chars.getD 0) width (GivenOption.has opts "i")
          let runs := runsBy key (splitRecords sep bytes)
          let out :=
            if GivenOption.has opts "D" then
              let method := (GivenOption.last? opts "D").getD "none"
              let kept := runs.filter (·.length > 1)
              let groups := kept.map fun r => r.flatMap (· ++ [sep])
              match method with
              | "prepend" => groups.flatMap ([sep] ++ ·)
              | "separate" => (groups.intersperse [sep]).flatten
              | _ => groups.flatten
            else
              let kept := runs.filter fun r =>
                (!GivenOption.has opts "d" || r.length > 1) && (!GivenOption.has opts "u" || r.length = 1)
              kept.flatMap fun r =>
                let count := if GivenOption.has opts "c" then
                    let ds := Decimal.render r.length
                    bytesOf (String.ofList (List.replicate (7 - ds.length) ' ') ++ ds ++ " ")
                  else []
                count ++ r.headD [] ++ [sep]
          { out := out }

end ReplHost.Shell
