import ReplHost.Shell.Output

/-! # Translating bytes: `tr`

  `tr [-cdst] SET1 [SET2]` copies standard input to standard output:

  - with two sets it maps each byte of SET1 to the byte at the same place
    of SET2, SET2 being extended by its last byte when it is shorter
    (`-t` shortens SET1 instead); a byte that appears twice in SET1 takes
    the later mapping;
  - `-d` deletes the bytes of SET1;
  - `-s` squeezes each run of one byte of the last set given into one, after
    translating or deleting;
  - `-c` takes the bytes not in SET1, in increasing order.

  A set is written with the escapes `\\ \a \b \f \n \r \t \v \ooo`, ranges
  `a-z`, classes `[:alpha:]` and the others of the C locale, `[=c=]` for `c`,
  and in SET2 repeats `[c*n]` (`n` in octal when it starts with `0`) or
  `[c*]`, which fills SET2 to the length of SET1. When translating, SET2 may
  hold only the classes `[:upper:]` and `[:lower:]`, set against
  `[:lower:]` and `[:upper:]` in SET1 for a change of case.
-/

namespace ReplHost.Shell

/-- A piece of a set. -/
inductive SetPiece where
  | byte (b : UInt8)
  | range (lo hi : UInt8)
  | charClass (name : String)
  | equiv (b : UInt8)
  /-- `[c*n]`; no count, or zero, fills the set. -/
  | repeatByte (b : UInt8) (count : Option Nat)
  deriving DecidableEq, Repr

/-- The bytes of a class of the C locale, in increasing order; `none` for
    a name that is not a class. -/
def classBytes (name : String) : Option (List UInt8) :=
  let all := (List.range 256).map Nat.toUInt8
  let isIn := fun (p : Char → Bool) => some (all.filter fun b => p (Char.ofNat b.toNat))
  let upper := fun (c : Char) => 'A' ≤ c && c ≤ 'Z'
  let lower := fun (c : Char) => 'a' ≤ c && c ≤ 'z'
  let digit := fun (c : Char) => '0' ≤ c && c ≤ '9'
  let graph := fun (c : Char) => '!' ≤ c && c ≤ '~'
  match name with
  | "alnum" => isIn fun c => upper c || lower c || digit c
  | "alpha" => isIn fun c => upper c || lower c
  | "blank" => isIn fun c => c = ' ' || c = '\t'
  | "cntrl" => isIn fun c => c.toNat < 32 || c.toNat = 127
  | "digit" => isIn digit
  | "graph" => isIn graph
  | "lower" => isIn lower
  | "print" => isIn fun c => graph c || c = ' '
  | "punct" => isIn fun c => graph c && !(upper c || lower c || digit c)
  | "space" => isIn fun c => c = ' ' || ('\t' ≤ c && c ≤ '\r')
  | "upper" => isIn upper
  | "xdigit" => isIn fun c => digit c || ('a' ≤ c && c ≤ 'f') || ('A' ≤ c && c ≤ 'F')
  | _ => none

/-- A byte as messages show it: itself when it prints, else in octal. -/
def printableByte (b : UInt8) : String :=
  if 0x20 ≤ b && b < 0x7F then
    if b = 0x5C then "\\\\" else String.singleton (Char.ofNat b.toNat)
  else
    match b with
    | 0x07 => "\\a"
    | 0x08 => "\\b"
    | 0x0C => "\\f"
    | 0x0A => "\\n"
    | 0x0D => "\\r"
    | 0x09 => "\\t"
    | 0x0B => "\\v"
    | _ => "\\" ++ String.ofList ((Nat.toDigits 8 (b.toNat + 0x200)).drop 1)

/-- The byte of a C escape letter of a set; other characters stand for
    themselves. -/
def setEscape (c : Char) : UInt8 :=
  match c with
  | 'a' => 0x07
  | 'b' => 0x08
  | 'f' => 0x0C
  | 'n' => 0x0A
  | 'r' => 0x0D
  | 't' => 0x09
  | 'v' => 0x0B
  | _ => c.toNat.toUInt8

/-- Reads an octal escape of one to three digits, stopping before a third
    digit that would take it past 255: its value and the text after it. -/
def octalEscape (cs : List Char) : Option (Nat × List Char) :=
  let octal := fun (x : Char) => '0' ≤ x && x ≤ '7'
  match cs with
  | a :: rest =>
    if !octal a then none
    else
      let v1 := a.toNat - 48
      match rest with
      | b :: rest2 =>
        if !octal b then some (v1, rest)
        else
          let v2 := 8 * v1 + (b.toNat - 48)
          match rest2 with
          | c :: rest3 =>
            if octal c && 8 * v2 + (c.toNat - 48) < 256 then some (8 * v2 + (c.toNat - 48), rest3)
            else some (v2, rest2)
          | [] => some (v2, rest2)
      | [] => some (v1, rest)
  | [] => none

/-- Reads the escapes of a set: each byte and whether it was escaped. A
    backslash at the end stands for itself. The fuel is the length. -/
def unescapeSet : (fuel : Nat) → List Char → List (UInt8 × Bool)
  | 0, _ | _, [] => []
  | fuel + 1, '\\' :: rest =>
    match rest with
    | [] => [(0x5C, false)]
    | c :: more =>
      match octalEscape rest with
      | some (v, after) => (v.toUInt8, true) :: unescapeSet fuel after
      | none => (setEscape c, true) :: unescapeSet fuel more
  | fuel + 1, c :: rest => (c.toNat.toUInt8, false) :: unescapeSet fuel rest

/-- Whether an unescaped byte `c` stands at the head. -/
def plainAt (c : Char) : List (UInt8 × Bool) → Bool
  | (b, false) :: _ => b = c.toNat.toUInt8
  | _ => false

/-- Finds the closing `d]` of `[:…:]` or `[=…=]`: the bytes before it and
    the rest after it. -/
def closingOf (d : Char) (acc : List UInt8) : List (UInt8 × Bool) → Option (List UInt8 × List (UInt8 × Bool))
  | [] => none
  | x :: rest =>
    if plainAt d (x :: rest) && plainAt ']' rest then some (acc.reverse, rest.drop 1)
    else closingOf d (x.1 :: acc) rest

/-- Reads `c*n]` after a `[`: the byte, the count and the rest; an error
    for a count that does not read. -/
def repeatAfter (es : List (UInt8 × Bool)) : Option (Except String (SetPiece × List (UInt8 × Bool))) :=
  match es with
  | (c, _) :: rest =>
    if !plainAt '*' rest then none
    else
      let body := rest.drop 1
      let digits := body.takeWhile fun (q : UInt8 × Bool) => !q.2 && q.1 != 0x5D
      let after := body.drop digits.length
      if !plainAt ']' after then none
      else
        let text := String.ofList (digits.map fun (q : UInt8 × Bool) => Char.ofNat q.1.toNat)
        let base := if text.startsWith "0" then 8 else 10
        let valid := !text.isEmpty && text.all fun (ch : Char) => ch.isDigit && decide (ch.toNat - 48 < base)
        if text.isEmpty then some (.ok (.repeatByte c none, after.drop 1))
        else if !valid then
          some (.error ("invalid repeat count " ++ quoteArg text ++ " in [c*n] construct"))
        else
          let n := text.toList.foldl (fun (acc : Nat) (ch : Char) => base * acc + (ch.toNat - 48)) 0
          some (.ok (.repeatByte c (if n = 0 then none else some n), after.drop 1))
  | [] => none

/-- Reads the pieces of a set; each step takes at least one byte, so the
    fuel is the number of bytes. -/
def setPieces : (fuel : Nat) → List (UInt8 × Bool) → Except String (List SetPiece)
  | 0, _ | _, [] => .ok []
  | fuel + 1, (b, escaped) :: rest =>
    let bracket := !escaped && b = 0x5B
    let classLike := bracket && (plainAt ':' rest || plainAt '=' rest)
    let classPiece : Option (Except String (SetPiece × List (UInt8 × Bool))) :=
      if !classLike then none
      else
        let d := if plainAt ':' rest then ':' else '='
        match closingOf d [] (rest.drop 1) with
        | none => none
        | some (name, after) =>
          if name.isEmpty then
            some (.error (if d = ':' then "missing character class name '[::]'"
              else "missing equivalence class character '[==]'"))
          else
            let text := String.ofList (name.map fun x => Char.ofNat x.toNat)
            if d = ':' then
              if (classBytes text).isSome then some (.ok (.charClass text, after))
              else if (repeatAfter rest).isSome then none
              else some (.error ("invalid character class " ++ quoteArg text))
            else
              match name with
              | [x] => some (.ok (.equiv x, after))
              | _ =>
                if (repeatAfter rest).isSome then none
                else some (.error (text ++ ": equivalence class operand must be a single character"))
    let repeatPiece := if bracket then repeatAfter rest else none
    match classPiece, repeatPiece with
    | some (.error e), _ => .error e
    | some (.ok (p, after)), _ => (setPieces fuel after).map (p :: ·)
    | none, some (.error e) => .error e
    | none, some (.ok (p, after)) => (setPieces fuel after).map (p :: ·)
    | none, none =>
      match rest with
      | m :: (hi, _) :: more =>
        if plainAt '-' [m] then
          if hi < b then
            .error ("range-endpoints of '" ++ printableByte b ++ "-" ++ printableByte hi ++
              "' are in reverse collating sequence order")
          else (setPieces fuel more).map (.range b hi :: ·)
        else (setPieces fuel rest).map (.byte b :: ·)
      | _ => (setPieces fuel rest).map (.byte b :: ·)

/-- Reads a set as written. -/
def readSet (text : String) : Except String (List SetPiece) :=
  let es := unescapeSet text.length text.toList
  setPieces es.length es

/-- Whether a piece fills the set (`[c*]`). -/
def SetPiece.fills : SetPiece → Bool
  | .repeatByte _ none => true
  | _ => false

/-- The bytes of a piece; a filling repeat gives `fill` copies. -/
def SetPiece.bytes (fill : Nat) : SetPiece → List UInt8
  | .byte b | .equiv b => [b]
  | .range lo hi => (List.range (hi.toNat - lo.toNat + 1)).map fun i => (lo.toNat + i).toUInt8
  | .charClass name => (classBytes name).getD []
  | .repeatByte b (some n) => List.replicate n b
  | .repeatByte b none => List.replicate fill b

/-- The bytes of a set; a `[c*]` fills it to `target` bytes. -/
def setBytes (target : Nat) (ps : List SetPiece) : List UInt8 :=
  let fixed := (ps.map (SetPiece.bytes 0 ·)).flatten.length
  (ps.map (SetPiece.bytes (target - fixed) ·)).flatten

/-- The options of `tr`. -/
def trOptions : List OptionSpec :=
  [{ letter := 'c', long := "complement", key := "c" },
   { letter := 'C', key := "c" },
   { letter := 'd', long := "delete", key := "d" },
   { letter := 's', long := "squeeze-repeats", key := "s" },
   { letter := 't', long := "truncate-set1", key := "t" },
   { long := "help", key := "help" },
   { long := "version", key := "version" }]

/-- Keeps one byte of each run of a byte of `set`. -/
def squeeze (set : List UInt8) (bytes : List UInt8) : List UInt8 :=
  let (out, _) := bytes.foldl (fun (acc : List UInt8 × Option UInt8) b =>
    if acc.2 = some b && set.contains b then acc else (b :: acc.1, some b)) ([], none)
  out.reverse

/-- The bytes not in a set, in increasing order. -/
def complementBytes (set : List UInt8) : List UInt8 :=
  ((List.range 256).map Nat.toUInt8).filter fun b => !set.contains b

/-- Whether a set holds a class other than `[:upper:]` and `[:lower:]`. -/
def restrictedClass (ps : List SetPiece) : Bool :=
  ps.any fun p => match p with
    | .charClass n => n ≠ "upper" && n ≠ "lower"
    | _ => false

/-- Whether each `[:upper:]` or `[:lower:]` of SET2 stands at the place of
    SET1 where one of them starts. -/
def caseClassesAligned (s1 s2 : List SetPiece) : Bool :=
  let starts := fun (ps : List SetPiece) =>
    (ps.foldl (fun (acc : Nat × List (Nat × SetPiece)) p =>
      (acc.1 + (SetPiece.bytes 0 p).length, (acc.1, p) :: acc.2)) (0, [])).2
  let caseClass := fun (p : SetPiece) => p = .charClass "upper" || p = .charClass "lower"
  let firsts := starts s1
  (starts s2).all fun (i, p) => !caseClass p || firsts.any fun (j, q) => j = i && caseClass q

/-- `tr [OPTION]… SET1 [SET2]`. -/
def tr (args : List String) (stdin : List UInt8) : Result :=
  let fail := fun (msg : String) => { err := bytesOf ("tr: " ++ msg ++ "\n"), status := 1 : Result }
  match readOptions trOptions args with
  | .error e => { err := bytesOf (usageText "tr" e.message), status := 1 }
  | .ok (opts, operands) =>
    let has := GivenOption.has opts
    let (delete, sq, compl) := (has "d", has "s", has "c")
    let least := if delete = sq then 2 else 1
    let most := if delete && !sq then 1 else 2
    if operands.length < least then
      if operands.isEmpty then { err := bytesOf (usageText "tr" "missing operand"), status := 1 }
      else
        let why := if sq then "Two strings must be given when both deleting and squeezing repeats.\n"
          else "Two strings must be given when translating.\n"
        { err := bytesOf ("tr: missing operand after " ++ quoteArg (operands.getLast?.getD "") ++ "\n" ++
            why ++ "Try 'tr --help' for more information.\n"), status := 1 }
    else if operands.length > most then
      let why := if operands.length = 2 then
          "Only one string may be given when deleting without squeezing repeats.\n" else ""
      { err := bytesOf ("tr: extra operand " ++ quoteArg ((operands.drop most).headD "") ++ "\n" ++
          why ++ "Try 'tr --help' for more information.\n"), status := 1 }
    else
      let translating := operands.length = 2 && !delete
      match readSet (operands.headD "") with
      | .error e => fail e
      | .ok s1 =>
        let s2? : Except String (Option (List SetPiece)) := match operands with
          | [_, b] => (readSet b).map some
          | _ => .ok none
        match s2? with
        | .error e => fail e
        | .ok s2 =>
          if s1.any SetPiece.fills then fail "the [c*] repeat construct may not appear in string1"
          else
            let s2ps := s2.getD []
            if (s2ps.filter SetPiece.fills).length > 1 then
              fail "only one [c*] repeat construct may appear in string2"
            else if translating && s2ps.any (fun p => match p with | .equiv _ => true | _ => false) then
              fail "[=c=] expressions may not appear in string2 when translating"
            else if translating && restrictedClass s2ps then
              fail "when translating, the only character classes that may appear in\nstring2 are 'upper' and 'lower'"
            else if translating && !compl && !caseClassesAligned s1 s2ps then
              fail "misaligned [:upper:] and/or [:lower:] construct"
            else if !translating && s2ps.any SetPiece.fills then
              fail "the [c*] construct may appear in string2 only when translating"
            else
              let set1 := setBytes 0 s1
              let domain := if compl then complementBytes set1 else set1
              let set2 := setBytes domain.length s2ps
              if translating then
                if domain.length > set2.length && !has "t" && set2.isEmpty then
                  fail "when not truncating set1, string2 must be non-empty"
                else if compl && s1.any (fun p => match p with | .charClass _ => true | _ => false) &&
                    set2.eraseDups.length > 1 then
                  fail "when translating with complemented character classes,\nstring2 must map all characters in the domain to one"
                else
                  let set2 := if domain.length > set2.length && !has "t" then
                      set2 ++ List.replicate (domain.length - set2.length) (set2.getLast?.getD 0)
                    else set2
                  let table := (domain.zip set2).foldl (fun (t : Array UInt8) (a, b) => t.set! a.toNat b)
                    ((List.range 256).map Nat.toUInt8).toArray
                  let out := stdin.map fun b => table.getD b.toNat b
                  { out := if sq then squeeze set2 out else out }
              else
                let kept := if delete then stdin.filter (fun b => !domain.contains b) else stdin
                let out := if sq then squeeze (if delete then set2 else domain) kept else kept
                { out := out }

end ReplHost.Shell
