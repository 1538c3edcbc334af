import ReplHost.Shell.Filters

/-! # Cutting lines: `cut`

  `cut` writes parts of each line of its inputs:

  - `-b LIST` and `-c LIST` the bytes at the positions in LIST (the same in
    the C locale), with the text `--output-delimiter` gives between
    ranges that are not next to each other;
  - `-f LIST` the fields, separated by the character `-d` gives (a tab by
    default), joined by the output delimiter (the same character by
    default); a line without the separator is written whole, unless `-s`.

  A LIST is ranges `N`, `N-M`, `N-` and `-M` separated by commas or
  blanks, counted from 1; `--complement` takes the positions outside it.
  Each line written ends with a line feed (a zero byte under `-z`).
-/

namespace ReplHost.Shell

/-- A range of positions, counted from 1; no end means to the end. -/
structure PosRange where
  first : Nat
  last : Option Nat
  deriving DecidableEq, Repr

/-- Whether a position is in one of the ranges. -/
def inPosRanges (rs : List PosRange) (n : Nat) : Bool :=
  rs.any fun r => r.first ≤ n && (match r.last with | some l => n ≤ l | none => true)

/-- Sorts ranges by their first position and merges those that overlap;
    ranges that only touch stay apart. -/
def mergeRanges (rs : List PosRange) : List PosRange :=
  let sorted := rs.mergeSort fun a b => a.first ≤ b.first
  let endsBefore := fun (a : PosRange) (n : Nat) => match a.last with
    | some l => decide (l < n)
    | none => false
  let later := fun (a b : Option Nat) => match a, b with
    | some x, some y => some (max x y)
    | _, _ => none
  (sorted.foldl (fun (acc : List PosRange) r =>
    match acc with
    | top :: rest => if endsBefore top r.first then r :: acc else { top with last := later top.last r.last } :: rest
    | [] => [r]) []).reverse

/-- The positions outside merged ranges, as ranges. -/
def complementRanges (rs : List PosRange) : List PosRange :=
  let (next, acc) := rs.foldl (fun (acc : Option Nat × List PosRange) r =>
    match acc.1 with
    | none => acc
    | some from_ =>
      let acc' := if from_ < r.first then (⟨from_, some (r.first - 1)⟩ : PosRange) :: acc.2 else acc.2
      (r.last.map (· + 1), acc')) (some 1, [])
  let acc := match next with
    | some from_ => (⟨from_, none⟩ : PosRange) :: acc
    | none => acc
  acc.reverse

/-- What reading a list found so far: the ranges, the number being read
    and whether it is a start or an end, and the start of the range being
    read when a `-` was seen. -/
structure ListReader where
  ranges : List PosRange := []
  value : Nat := 0
  hasStart : Bool := false
  hasEnd : Bool := false
  dash : Bool := false
  start : Nat := 1

/-- Reads a list of positions; `fields` says how errors name them. -/
def readPositions (fields : Bool) (spec : String) : Except String (List PosRange) :=
  let numberedFrom := if fields then "fields are numbered from 1"
    else "byte/character positions are numbered from 1"
  let rec go (r : ListReader) : List Char → Except String ListReader
    | [] => close r
    | c :: rest =>
      if c = '-' then
        if r.dash then .error (if fields then "invalid field range" else "invalid byte or character range")
        else if r.hasStart && r.value = 0 then .error numberedFrom
        else go { r with dash := true, start := if r.hasStart then r.value else 1, value := 0 } rest
      else if c = ',' || c = ' ' || c = '\t' then
        match close r with
        | .ok r => go r rest
        | .error e => .error e
      else if c.isDigit then
        let v := r.value * 10 + (c.toNat - 48)
        go (if r.dash then { r with value := v, hasEnd := true } else { r with value := v, hasStart := true }) rest
      else .error ((if fields then "invalid field value " else "invalid byte/character position ") ++
        quoteArg (String.ofList (c :: rest)))
  go {} spec.toList |>.bind fun r =>
    if r.ranges.isEmpty then
      .error (if fields then "missing list of fields" else "missing list of byte/character positions")
    else .ok r.ranges.reverse
where
  /-- Ends the range being read at a comma, a blank or the end. -/
  close (r : ListReader) : Except String ListReader :=
    let numberedFrom := if fields then "fields are numbered from 1"
      else "byte/character positions are numbered from 1"
    if r.dash then
      if !r.hasStart && !r.hasEnd then .error "invalid range with no endpoint: -"
      else if !r.hasEnd then
        .ok { ranges := ⟨r.start, none⟩ :: r.ranges }
      else if r.value < r.start then .error "invalid decreasing range"
      else .ok { ranges := ⟨r.start, some r.value⟩ :: r.ranges }
    else if r.value = 0 then .error numberedFrom
    else .ok { ranges := ⟨r.value, some r.value⟩ :: r.ranges }

/-- The options of `cut`. -/
def cutOptions : List OptionSpec :=
  [{ letter := 'b', long := "bytes", arg := .required, key := "b" },
   { letter := 'c', long := "characters", arg := .required, key := "c" },
   { letter := 'd', long := "delimiter", arg := .required, key := "d" },
   { letter := 'f', long := "fields", arg := .required, key := "f" },
   { letter := 'n', key := "n" },
   { letter := 's', long := "only-delimited", key := "s" },
   { long := "output-delimiter", arg := .required, key := "output" },
   { long := "complement", key := "complement" },
   { letter := 'z', long := "zero-terminated", key := "z" },
   { long := "help", key := "help" },
   { long := "version", key := "version" }]

/-- What `cut` was asked to do. -/
structure CutPlan where
  fields : Bool
  /-- The selected positions, as merged ranges. -/
  ranges : List PosRange
  delimiter : UInt8 := 0x09
  output : Option (List UInt8) := none
  onlyDelimited : Bool := false
  lineEnd : UInt8 := 0x0A

/-- Whether position `n` is selected. -/
def CutPlan.selects (p : CutPlan) (n : Nat) : Bool := inPosRanges p.ranges n

/-- Whether position `n` starts a selected range. -/
def CutPlan.startsSelection (p : CutPlan) (n : Nat) : Bool := p.ranges.any (·.first = n)

/-- The plan the options of `cut` give, or the error, with whether the
    hint follows it. -/
def cutPlan (opts : List GivenOption) : Except String CutPlan := do
  let mode ← opts.foldlM (fun (m : Option (Bool × String)) o =>
    if o.key = "b" || o.key = "c" || o.key = "f" then
      if m.isSome then throw "only one type of list may be specified"
      else pure (some (o.key = "f", o.value.getD ""))
    else if o.key = "d" then
      if (o.value.getD "").length > 1 then throw "the delimiter must be a single character"
      else pure m
    else pure m) none
  match mode with
  | none => throw "you must specify a list of bytes, characters, or fields"
  | some (fields, spec) =>
    let delim := GivenOption.last? opts "d"
    if delim.isSome && !fields then
      throw "an input delimiter may be specified only when operating on fields"
    if GivenOption.has opts "s" && !fields then
      throw "suppressing non-delimited lines makes sense\n\tonly when operating on fields"
    let ranges := mergeRanges (← readPositions fields spec)
    let ranges := if GivenOption.has opts "complement" then complementRanges ranges else ranges
    let d : UInt8 := match delim with
      | some v => ((bytesOf v).head?).getD 0
      | none => 0x09
    let output := (GivenOption.last? opts "output").map fun v => if v.isEmpty then [0] else bytesOf v
    pure { fields := fields, ranges := ranges, delimiter := d, output := output,
           onlyDelimited := GivenOption.has opts "s",
           lineEnd := if GivenOption.has opts "z" then 0 else 0x0A }

/-- Cuts the selected bytes out of a line (without its end); the output
    delimiter, when one is given, goes before each range but the first
    written. -/
def cutBytes (p : CutPlan) (line : List UInt8) : List UInt8 :=
  let (out, _) := line.zipIdx.foldl (fun (acc : List UInt8 × Bool) (b, i) =>
    let (out, printed) := acc
    if !p.selects (i + 1) then acc
    else
      let sep := match p.output with
        | some d => if printed && p.startsSelection (i + 1) then d.reverse else []
        | none => []
      (b :: sep ++ out, true)) ([], false)
  out.reverse

/-- Splits a line at a separator byte. -/
def splitAt (sep : UInt8) (line : List UInt8) : List (List UInt8) :=
  let (cur, done) := line.foldl (fun (acc : List UInt8 × List (List UInt8)) b =>
    if b = sep then ([], acc.1.reverse :: acc.2) else (b :: acc.1, acc.2)) ([], [])
  (cur.reverse :: done).reverse

/-- Cuts one line (without its end): what is written for it, if anything. -/
def cutLine (p : CutPlan) (line : List UInt8) : Option (List UInt8) :=
  if !p.fields then some (cutBytes p line ++ [p.lineEnd])
  else if !line.contains p.delimiter then
    if p.onlyDelimited then none else some (line ++ [p.lineEnd])
  else
    let parts := splitAt p.delimiter line
    let kept := (parts.zipIdx.filter fun (_, i) => p.selects (i + 1)).map (·.1)
    some ((kept.intersperse (p.output.getD [p.delimiter])).flatten ++ [p.lineEnd])

/-- Cuts every line of an input. -/
def cutInput (p : CutPlan) (bytes : List UInt8) : List UInt8 :=
  (splitRecords p.lineEnd bytes).flatMap fun l => (cutLine p l).getD []
where
  /-- The lines of an input without their ends. -/
  splitRecords (sep : UInt8) (bytes : List UInt8) : List (List UInt8) :=
    (headOf.linesBy sep bytes).map fun l => if l.getLast? = some sep then l.dropLast else l

/-- `cut OPTION… [FILE]…`. -/
def cut (read : Reader) (args : List String) (stdin : List UInt8) : Result :=
  match readOptions cutOptions args with
  | .error e => { err := bytesOf (usageText "cut" e.message), status := 1 }
  | .ok (opts, operands) =>
    match cutPlan opts with
    | .error msg => { err := bytesOf (usageText "cut" msg), status := 1 }
    | .ok p =>
      let (o, failed) := (readInputs read stdin (inputNames operands)).foldl
        (fun (acc : Output × Bool) (name, contents) =>
          match contents with
          | .ok bytes => (acc.1.put (cutInput p bytes), acc.2)
          | .error e => (acc.1.complain ("cut: " ++ shellQuoted name ++ ": " ++ readError e ++ "\n"), true))
        ({}, false)
      o.result (if failed then 1 else 0)

end ReplHost.Shell
