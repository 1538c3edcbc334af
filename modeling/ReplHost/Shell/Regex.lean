import ReplHost.Shell.Pattern

/-! # Basic regular expressions

  The regular expressions of `expr`: the POSIX basic syntax with the GNU
  additions, over the characters of the C locale.

  - `.` matches any character, `[…]` one of a bracket expression: single
    characters, ranges `a-z`, named classes `[:alpha:]`, and `[=c=]` or
    `[.c.]` for one character; `^` first negates it, a `]` first and a `-`
    first or last are members, a backslash is itself;
  - `*` repeats the item before it, `\+` once or more, `\?` at most once,
    `\{m\}`, `\{m,\}`, `\{,n\}` and `\{m,n\}` so many times; at the start of
    a branch or after an anchor these stand for their own characters;
  - `\(…\)` groups and captures, `\1` to `\9` match again what a closed
    group captured, `\|` separates alternatives;
  - `^` is an anchor at the start of a branch and `$` at its end, and
    elsewhere they stand for themselves;
  - `\w`, `\W`, `\s`, `\S` are the word and blank classes and their
    complements; `\b`, `\B`, `\<`, `\>` are anchors at word boundaries, and
    `` \` `` and `\'` at the ends of the text.

  A match starts at the beginning of the text and is the longest one there.
  Of the ways to reach that end, the groups keep what the first gives them,
  trying more rounds of a repetition before fewer and the left alternative
  before the right.
-/

namespace ReplHost.Shell

/-- A test that a regular expression makes between two characters. -/
inductive Anchor where
  /-- The start of the text. -/
  | textStart
  /-- The end of the text. -/
  | textEnd
  /-- A word character on exactly one side. -/
  | wordBoundary
  /-- A word character on both sides or on neither. -/
  | notWordBoundary
  /-- A word character after and none before. -/
  | wordStart
  /-- A word character before and none after. -/
  | wordEnd
  deriving DecidableEq, Repr

/-- A regular expression. -/
inductive Regex where
  /-- The empty text. -/
  | empty
  /-- One given character. -/
  | char (c : Char)
  /-- Any one character. -/
  | any
  /-- One character of the ranges, or not of them. -/
  | oneOf (negated : Bool) (ranges : List (Char × Char))
  /-- A test between characters. -/
  | anchor (a : Anchor)
  /-- Group `n`: what it matches is captured. -/
  | group (n : Nat) (r : Regex)
  /-- What group `n` captured. -/
  | backref (n : Nat)
  /-- One after the other. -/
  | seq (a b : Regex)
  /-- One or the other. -/
  | alt (a b : Regex)
  /-- At least `least` rounds and at most `most`, if given. -/
  | rep (r : Regex) (least : Nat) (most : Option Nat)
  deriving Repr, Inhabited

/-- Why a regular expression cannot be read. -/
inductive RegexError where
  | collation
  | className
  | trailingBackslash
  | backReference
  | bracket
  | openGroup
  | closeGroup
  | openInterval
  | intervalContent
  | rangeEnd
  | tooBig
  deriving DecidableEq, Repr

/-- The message of a reading error. -/
def RegexError.message : RegexError → String
  | .collation => "Invalid collation character"
  | .className => "Invalid character class name"
  | .trailingBackslash => "Trailing backslash"
  | .backReference => "Invalid back reference"
  | .bracket => "Unmatched [, [^, [:, [., or [="
  | .openGroup => "Unmatched ( or \\("
  | .closeGroup => "Unmatched ) or \\)"
  | .openInterval => "Unmatched \\\x7b"
  | .intervalContent => "Invalid content of \\\x7b\\\x7d"
  | .rangeEnd => "Invalid range end"
  | .tooBig => "Regular expression too big"

/-- The most rounds an interval may ask for. -/
def repeatLimit : Nat := 32767

/-- The word characters: letters, digits and `_`. -/
def wordRanges : List (Char × Char) := [('0', '9'), ('A', 'Z'), ('_', '_'), ('a', 'z')]

/-- The blank characters of `\s`. -/
def blankRanges : List (Char × Char) := [('\x09', '\x0d'), (' ', ' ')]

/-! ### Bracket expressions -/

/-- One element of a bracket expression. -/
inductive BracketElement where
  /-- A character; it may bound a range. -/
  | char (c : Char)
  /-- A named class or an equivalence class; it cannot bound a range. -/
  | set (ranges : List (Char × Char))

/-- The ranges an element stands for. -/
def BracketElement.ranges : BracketElement → List (Char × Char)
  | .char c => [(c, c)]
  | .set rs => rs

/-- Reads the name of `[.name.]`, `[=name=]` or `[:name:]` after its
    opening, up to `delim` and `]`: the name and the text after it. -/
def readBracketName (delim : Char) (acc : List Char) : List Char → Option (List Char × List Char)
  | [] => none
  | [_] => none
  | c :: d :: rest =>
    if acc.length ≥ 32 then none
    else if c = delim && d = ']' then some (acc, rest)
    else readBracketName delim (acc ++ [c]) (d :: rest)

/-- Reads one element of a bracket expression. -/
def readBracketElement : List Char → Except RegexError (BracketElement × List Char)
  | '[' :: '.' :: rest =>
    match readBracketName '.' [] rest with
    | none => .error .bracket
    | some ([c], after) => .ok (.char c, after)
    | some _ => .error .collation
  | '[' :: '=' :: rest =>
    match readBracketName '=' [] rest with
    | none => .error .bracket
    | some ([c], after) => .ok (.set [(c, c)], after)
    | some _ => .error .collation
  | '[' :: ':' :: rest =>
    match readBracketName ':' [] rest with
    | none => .error .bracket
    | some (name, after) =>
      match namedClasses.lookup (String.ofList name) with
      | some ranges => .ok (.set ranges, after)
      | none => .error .className
  | c :: rest => .ok (.char c, rest)
  | [] => .error .bracket

/-- Reads the elements of a bracket expression up to its closing `]`:
    their ranges and the text after it. `first` says whether this is the
    first element, where `]` and `-` are members. -/
def readBracket (acc : List (Char × Char)) (first : Bool) :
    Nat → List Char → Except RegexError (List (Char × Char) × List Char)
  | 0, _ => .error .bracket
  | fuel + 1, cs =>
    let more := fun (rs : List (Char × Char)) (rest : List Char) =>
      match rest with
      | [] => .error .bracket
      | _ => readBracket (acc ++ rs) false fuel rest
    let element := fun (cs : List Char) =>
      match readBracketElement cs with
      | .error e => .error e
      | .ok (start, rest) =>
        match start, rest with
        | _, [] => .error .bracket
        | .char a, '-' :: ']' :: after => more [(a, a), ('-', '-')] (']' :: after)
        | .char _, ['-'] => .error .bracket
        | .char a, '-' :: after =>
          match readBracketElement after with
          | .error e => .error e
          | .ok (.char b, after) => more [(a, b)] after
          | .ok (.set _, _) => .error .rangeEnd
        | e, _ => more e.ranges rest
    match cs with
    | [] => .error .bracket
    | ']' :: rest => if first then element cs else .ok (acc, rest)
    | '-' :: rest =>
      if first then element cs
      else
        match rest with
        | ']' :: _ => more [('-', '-')] rest
        | [] => .error .bracket
        | _ => .error .rangeEnd
    | _ => element cs

/-- Reads a bracket expression after its `[`: whether it is negated, its
    ranges and the text after it. -/
def readBracketExpression (cs : List Char) : Except RegexError (Bool × List (Char × Char) × List Char) :=
  let (negated, body) := match cs with
    | '^' :: rest => (true, rest)
    | rest => (false, rest)
  match readBracket [] true (body.length + 1) body with
  | .ok (ranges, after) => .ok (negated, ranges, after)
  | .error e => .error e

/-! ### Intervals -/

/-- A bound of an interval as read so far. -/
inductive Bound where
  /-- No digits yet. -/
  | absent
  /-- Something other than digits. -/
  | bad
  /-- A number, kept at most one past the limit. -/
  | value (n : Nat)
  deriving DecidableEq, Repr

/-- Reads an interval bound up to `,` or `\}`: the bound, the character
    that ended it (none at the end of the text), and the text after it. -/
def readBound (b : Bound) : List Char → Bound × Option Char × List Char
  | [] => (.bad, none, [])
  | ['\\'] => (.bad, none, [])
  | '\\' :: '\x7d' :: rest => (b, some '\x7d', rest)
  | '\\' :: ',' :: rest => (b, some ',', rest)
  | ',' :: rest => (b, some ',', rest)
  | '\\' :: _ :: rest => readBound .bad rest
  | c :: rest =>
    let b := match b with
      | .bad => .bad
      | .absent => if c.isDigit then .value (c.toNat - 48) else .bad
      | .value n => if c.isDigit then .value (min (repeatLimit + 1) (n * 10 + (c.toNat - 48))) else .bad
    readBound b rest

/-- Reads an interval after its `\{`: the least and most rounds and the
    text after its `\}`. -/
def readInterval (cs : List Char) : Except RegexError (Nat × Option Nat × List Char) :=
  let (start, t, rest) := readBound .absent cs
  let start := match start, t with
    | .absent, some ',' => Bound.value 0
    | b, _ => b
  match start with
  | .absent => .error .intervalContent
  | .bad => if t.isNone then .error .openInterval else .error .intervalContent
  | .value least =>
    let (stop, t, rest) :=
      if t = some '\x7d' then (Bound.value least, t, rest) else readBound .absent rest
    match stop with
    | .bad => if t.isNone then .error .openInterval else .error .intervalContent
    | .absent =>
      if t ≠ some '\x7d' then .error .intervalContent
      else if repeatLimit < least then .error .tooBig
      else .ok (least, none, rest)
    | .value most =>
      if least > most || t ≠ some '\x7d' then .error .intervalContent
      else if repeatLimit < most then .error .tooBig
      else .ok (least, some most, rest)

/-! ### Reading -/

/-- What is left to read, with the groups opened so far and those closed. -/
structure RegexReader where
  rest : List Char
  opened : Nat := 0
  closed : List Nat := []

/-- Applies the repetition operators after an item. -/
def readRepeats (item : Regex) (r : RegexReader) : Nat → Except RegexError (Regex × RegexReader)
  | 0 => .ok (item, r)
  | fuel + 1 =>
    match r.rest with
    | '*' :: more => readRepeats (.rep item 0 none) { r with rest := more } fuel
    | '\\' :: '+' :: more => readRepeats (.rep item 1 none) { r with rest := more } fuel
    | '\\' :: '?' :: more => readRepeats (.rep item 0 (some 1)) { r with rest := more } fuel
    | '\\' :: '\x7b' :: more => do
      let (least, most, after) ← readInterval more
      readRepeats (.rep item least most) { r with rest := after } fuel
    | _ => .ok (item, r)

/-- Whether `$` at the head of `cs` is an anchor: it ends the text, a
    branch or a group. -/
def endsBranch (cs : List Char) : Bool :=
  match cs with
  | [] | '\\' :: '|' :: _ | '\\' :: ')' :: _ => true
  | _ => false

mutual

/-- Reads alternatives separated by `\|`, up to the end of the text, or up
    to a `\)` when `nested`. -/
def readAlternatives (nested : Bool) (r : RegexReader) : Nat → Except RegexError (Regex × RegexReader)
  | 0 => .error .tooBig
  | fuel + 1 => do
    let (b, r) ← readBranch nested true .empty r fuel
    match r.rest with
    | '\\' :: '|' :: more =>
      let (other, r) ← readAlternatives nested { r with rest := more } fuel
      pure (.alt b other, r)
    | _ => pure (b, r)

/-- Reads the items of a branch after `acc`. `caret` says that `^` is an
    anchor here. -/
def readBranch (nested caret : Bool) (acc : Regex) (r : RegexReader) :
    Nat → Except RegexError (Regex × RegexReader)
  | 0 => .error .tooBig
  | fuel + 1 =>
    match r.rest with
    | [] => pure (acc, r)
    | '\\' :: '|' :: _ => pure (acc, r)
    | '\\' :: ')' :: _ => if nested then pure (acc, r) else .error .closeGroup
    | _ => do
      let (item, r) ← readItem caret r fuel
      readBranch nested false (.seq acc item) r fuel

/-- Reads one item: an anchor, or an atom with the repetition operators
    after it. A repetition operator met here, at the start of a branch or
    after an anchor, stands for its own character. -/
def readItem (caret : Bool) (r : RegexReader) : Nat → Except RegexError (Regex × RegexReader)
  | 0 => .error .tooBig
  | fuel + 1 =>
    let atom := fun (a : Regex) (rest : List Char) =>
      readRepeats a { r with rest := rest } (rest.length + 1)
    let anchor := fun (a : Anchor) (rest : List Char) =>
      Except.ok (Regex.anchor a, { r with rest := rest })
    match r.rest with
    | [] => pure (.empty, r)
    | '^' :: rest => if caret then anchor .textStart rest else atom (.char '^') rest
    | '$' :: rest => if endsBranch rest then anchor .textEnd rest else atom (.char '$') rest
    | '.' :: rest => atom .any rest
    | '[' :: rest => do
      let (negated, ranges, after) ← readBracketExpression rest
      atom (.oneOf negated ranges) after
    | ['\\'] => .error .trailingBackslash
    | '\\' :: c :: rest =>
      if c = '(' then do
        let n := r.opened + 1
        let (inner, r') ← readAlternatives true { r with rest := rest, opened := n } fuel
        match r'.rest with
        | '\\' :: ')' :: after =>
          readRepeats (.group n inner) { r' with rest := after, closed := n :: r'.closed }
            (after.length + 1)
        | _ => .error .openGroup
      else if '1' ≤ c && c ≤ '9' then
        let n := c.toNat - 48
        if r.closed.contains n then atom (.backref n) rest else .error .backReference
      else if c = 'w' then atom (.oneOf false wordRanges) rest
      else if c = 'W' then atom (.oneOf true wordRanges) rest
      else if c = 's' then atom (.oneOf false blankRanges) rest
      else if c = 'S' then atom (.oneOf true blankRanges) rest
      else if c = '<' then anchor .wordStart rest
      else if c = '>' then anchor .wordEnd rest
      else if c = 'b' then anchor .wordBoundary rest
      else if c = 'B' then anchor .notWordBoundary rest
      else if c = '\x60' then anchor .textStart rest
      else if c = '\x27' then anchor .textEnd rest
      else atom (.char c) rest
    | c :: rest => atom (.char c) rest

end

/-- A regular expression read from its text, with the number of its
    groups. -/
structure CompiledRegex where
  regex : Regex
  groups : Nat

/-- Reads a regular expression. -/
def Regex.compile (text : String) : Except RegexError CompiledRegex := do
  let cs := text.toList
  let (re, r) ← readAlternatives false { rest := cs } (2 * cs.length + 2)
  pure { regex := re, groups := r.opened }

/-! ### Matching -/

/-- Where each group matched last, by group number. -/
abbrev Spans := List (Option (Nat × Nat))

/-- Whether a character is a word character. -/
def isWordChar (c : Char) : Bool := c.isAlphanum || c = '_'

/-- Whether position `i` of `text` holds a word character. -/
def wordAt (text : Array Char) (i : Nat) : Bool := (text[i]?.map isWordChar).getD false

/-- Whether an anchor holds at position `i` of `text`, between the
    characters before and at `i`. -/
def Anchor.holds (text : Array Char) (i : Nat) (a : Anchor) : Bool :=
  let before := i > 0 && wordAt text (i - 1)
  let after := wordAt text i
  match a with
  | .textStart => i = 0
  | .textEnd => i = text.size
  | .wordBoundary => before != after
  | .notWordBoundary => before == after
  | .wordStart => !before && after
  | .wordEnd => before && !after

/-- Whether a regular expression refers back to a group. -/
def Regex.refersBack : Regex → Bool
  | .backref _ => true
  | .group _ r | .rep r _ _ => r.refersBack
  | .seq a b | .alt a b => a.refersBack || b.refersBack
  | _ => false

/-- Keeps the first way to reach each end. -/
def firstPerEnd (ways : List (Nat × Spans)) : List (Nat × Spans) :=
  ways.foldl (fun acc w => if acc.any (·.1 = w.1) then acc else acc ++ [w]) []

/-- Thins out ways to reach an end: when nothing refers back to a group,
    the first way to each end is the only one that can matter. -/
def thin (exact : Bool) (ways : List (Nat × Spans)) : List (Nat × Spans) :=
  if exact then ways else firstPerEnd ways

/-- The ways to go on from `i` by rounds of `step`, at least `least` and at
    most `most` of them, more rounds first. A round past the least that
    matches nothing is not taken. -/
def repeatWays (step : Nat → Spans → List (Nat × Spans)) (exact : Bool) :
    Nat → Option Nat → Nat → Nat → Spans → List (Nat × Spans)
  | least, _, 0, i, sp => if least = 0 then [(i, sp)] else []
  | least, most, fuel + 1, i, sp =>
    let again :=
      if most = some 0 then []
      else
        (step i sp).flatMap fun (j, sp') =>
          if j = i && least = 0 then []
          else repeatWays step exact (least - 1) (most.map (· - 1)) fuel j sp'
    thin exact (again ++ if least = 0 then [(i, sp)] else [])

/-- The ways `re` matches from position `i` of `text`: each end reached
    with the groups then, in order of preference. -/
def Regex.ways (text : Array Char) (exact : Bool) : Regex → Nat → Spans → List (Nat × Spans)
  | .empty, i, sp => [(i, sp)]
  | .char c, i, sp => if text[i]? = some c then [(i + 1, sp)] else []
  | .any, i, sp => if i < text.size then [(i + 1, sp)] else []
  | .oneOf negated ranges, i, sp =>
    match text[i]? with
    | some c => if negated != ranges.any (fun (a, b) => a ≤ c && c ≤ b) then [(i + 1, sp)] else []
    | none => []
  | .anchor a, i, sp => if a.holds text i then [(i, sp)] else []
  | .group n r, i, sp => (r.ways text exact i sp).map fun (j, sp') => (j, sp'.set n (some (i, j)))
  | .backref n, i, sp =>
    match sp[n]? with
    | some (some (a, b)) =>
      let piece := (text.extract a b).toList
      if (text.extract i (i + piece.length)).toList = piece then [(i + piece.length, sp)] else []
    | _ => []
  | .seq a b, i, sp => thin exact ((a.ways text exact i sp).flatMap fun (j, sp') => b.ways text exact j sp')
  | .alt a b, i, sp => thin exact (a.ways text exact i sp ++ b.ways text exact i sp)
  | .rep r least most, i, sp =>
    repeatWays (fun j s => r.ways text exact j s) exact least most (least + text.size + 1) i sp

/-- The longest match of a regular expression at the start of `text`: its
    length and where its groups matched. -/
def CompiledRegex.matchStart (c : CompiledRegex) (text : String) : Option (Nat × Spans) :=
  let ways := c.regex.ways text.toList.toArray c.regex.refersBack 0 (List.replicate (c.groups + 1) none)
  ways.foldl (fun best w =>
    match best with
    | some b => if w.1 > b.1 then some w else some b
    | none => some w) none

end ReplHost.Shell
