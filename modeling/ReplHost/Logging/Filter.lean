import ReplHost.Text.Chars
import ReplHost.Text.Decimal

/-! # Log filters

  A log filter is a comma-separated list of *directives*; empty pieces are
  skipped. A directive that reads as a level in full applies to every
  target. Otherwise it is `target`, `target=level`, `target[span]` or
  `target[span]=level`: the target is all text before the first `[` (or
  before the first `=` when there is no bracket), any text at all, and an
  empty target means every target. The span runs to the first `]`, and
  after it only the end or `=level` may follow. A missing or empty level
  allows every level.

  Levels are `trace`, `debug`, `info`, `warn`, `error` and `off` in any
  case, or a number `0` (off) to `5` (trace) with an optional `+` and
  leading zeros. One directive that does not read makes the whole filter
  fail; an empty filter reads and allows nothing.

  The span text is a span name, or an optional name followed by fields in
  braces, `name{a,b=value}`; a field value must be a number or a valid
  pattern. A directive naming a span selects events inside that span only,
  and so does one giving a field value: neither ever allows a plain event.
  The others are *static*. An event of a target at a level is decided by
  the most specific static directive whose target is a prefix of the
  event's target: the longest target first, then the one naming more
  fields, then the greater list of field names; of two directives alike in
  all three the later one counts.
-/

namespace ReplHost.Logging

/-- How much a filter lets through, from nothing to everything. -/
inductive LevelFilter where
  | off | error | warn | info | debug | trace
  deriving DecidableEq, Repr

namespace LevelFilter

/-- The rank of a filter level: more is more verbose. -/
def rank : LevelFilter → Nat
  | off => 0 | error => 1 | warn => 2 | info => 3 | debug => 4 | trace => 5

/-- The level of rank `n`, for `n ≤ 5`. -/
def ofRank? : Nat → Option LevelFilter
  | 0 => some off | 1 => some error | 2 => some warn | 3 => some info | 4 => some debug
  | 5 => some trace | _ => none

/-- The level a word names, ignoring ASCII case. -/
def ofWord? (s : String) : Option LevelFilter :=
  match String.ofList (s.toList.map Char.toLower) with
  | "error" => some error | "warn" => some warn | "info" => some info
  | "debug" => some debug | "trace" => some trace | "off" => some off
  | _ => none

/-- Reads a level: a number in `0 .. 5` (a leading `+` and zeros allowed),
    a level word, or the empty text, which means `error`. -/
def parse? (s : String) : Option LevelFilter :=
  match Decimal.readWord? s with
  | some n => (ofRank? n).or (if s = "" then some error else ofWord? s)
  | none => if s = "" then some error else ofWord? s

end LevelFilter

/-- The level of an event. -/
inductive Level where
  | error | warn | info | debug | trace
  deriving DecidableEq, Repr

/-- The rank of an event level, as `LevelFilter.rank` ranks filters. -/
def Level.rank : Level → Nat
  | error => 1 | warn => 2 | info => 3 | debug => 4 | trace => 5

/-- The event levels, most severe first. -/
def Level.all : List Level := [.error, .warn, .info, .debug, .trace]

/-- One directive of a filter. -/
structure Directive where
  /-- The target prefix it applies to; every target when absent. -/
  target : Option String := none
  /-- The span it applies within, if any. -/
  span : Option String := none
  /-- The fields it names, each with whether it gives a value. -/
  fields : List (String × Bool) := []
  /-- The most verbose level it allows. -/
  level : LevelFilter
  deriving DecidableEq, Repr

/-! ### Field values -/

/-- Reads the digits of a number's exponent: an optional sign, then at
    least one digit. -/
def isExponent (cs : List Char) : Bool :=
  let ds := match cs with
    | '+' :: r => r
    | '-' :: r => r
    | r => r
  !ds.isEmpty && ds.all Char.isDigit

/-- Whether text reads as a floating-point number: an optional sign, then
    `inf`, `infinity` or `nan` in any case, or digits with an optional
    fraction (one of the two not empty) and an optional exponent. -/
def isFloat (s : String) : Bool :=
  let cs := match s.toList with
    | '+' :: r => r
    | '-' :: r => r
    | r => r
  let word := String.ofList (cs.map Char.toLower)
  if word = "inf" || word = "infinity" || word = "nan" then true
  else
    let (whole, rest) := cs.span Char.isDigit
    let (frac, rest) := match rest with
      | '.' :: r => r.span Char.isDigit
      | r => ([], r)
    (!whole.isEmpty || !frac.isEmpty) &&
      match rest with
      | [] => true
      | c :: e => (c = 'e' || c = 'E') && isExponent e

/-- Reads a counted repetition after its `{`: `n`, `n,` or `n,m` and the
    closing brace; the text after it. -/
def countedRepetition (cs : List Char) : Option (List Char) :=
  let (lo, rest) := cs.span Char.isDigit
  if lo.isEmpty then none
  else
    match rest with
    | '}' :: after => some after
    | ',' :: more =>
      match more.span Char.isDigit with
      | (_, '}' :: after) => some after
      | _ => none
    | _ => none

/-- Skips a bracketed class after its `[`: an optional `^`, a `]` first
    taken as a member, escapes, up to the closing `]`; the text after it. -/
def classEnd (cs : List Char) : Option (List Char) :=
  let body := match cs with
    | '^' :: r => r
    | r => r
  let rec go (first : Bool) : List Char → Option (List Char)
    | [] => none
    | '\\' :: _ :: rest => go false rest
    | ']' :: rest => if first then go false rest else some rest
    | _ :: rest => go false rest
  go true body

/-- Whether a pattern is well formed as far as its structure goes: groups
    balance, classes close, an escape has a character after it, and every
    repetition (`*`, `+`, `?`, `{n,m}`) follows something to repeat.
    `depth` counts the open groups and `atom` says whether something to
    repeat comes just before; `fuel` bounds the characters read. -/
def patternOk (depth : Nat) (atom : Bool) : List Char → (fuel : Nat) → Bool
  | _, 0 => false
  | [], _ + 1 => depth = 0
  | c :: rest, fuel + 1 =>
    match c, rest with
    | '\\', [] => false
    | '\\', _ :: more => patternOk depth true more fuel
    | '(', _ => patternOk (depth + 1) false rest fuel
    | ')', _ => depth > 0 && patternOk (depth - 1) true rest fuel
    | '|', _ => patternOk depth false rest fuel
    | '*', _ => atom && patternOk depth true rest fuel
    | '+', _ => atom && patternOk depth true rest fuel
    | '?', _ => atom && patternOk depth true rest fuel
    | '{', _ =>
      atom && match countedRepetition rest with
        | some after => patternOk depth true after fuel
        | none => false
    | '[', _ =>
      match classEnd rest with
      | some after => patternOk depth true after fuel
      | none => false
    | _, _ => patternOk depth true rest fuel

/-- Whether a field value is accepted: `true` or `false`, a number, or a
    well-formed pattern. -/
def valueOk (v : String) : Bool :=
  v = "true" || v = "false" || isFloat v || patternOk 0 false v.toList (v.length + 1)

/-! ### Reading directives -/

/-- Reads a level after `=`: the empty text allows every level. -/
def levelAfterEquals (s : String) : Option LevelFilter :=
  if s = "" then some .trace else LevelFilter.parse? s

/-- Reads what may follow a span: nothing, or `=` and a level. -/
def readLevelSuffix : List Char → Option LevelFilter
  | [] => some .trace
  | '=' :: rest => levelAfterEquals (String.ofList rest)
  | _ => none

/-- Reads one field: its name, and whether a value follows `=`; a value
    must be accepted. -/
def readField (s : String) : Option (String × Bool) :=
  match s.splitOn "=" with
  | name :: value :: _ => if valueOk value then some (name, true) else none
  | _ => some (s, false)

/-- Reads the text between a span's brackets: without a brace it is the
    span's name; otherwise the text before the brace is the name (none
    when empty) and the braces, closing the text, hold the fields. -/
def readSpan (text : List Char) : Option (Option String × List (String × Bool)) :=
  match text.span (· ≠ '{') with
  | (name, []) => some (some (String.ofList name), [])
  | (name, _ :: rest) =>
    if rest.getLast? = some '}' then do
      let fields ← ((String.ofList rest.dropLast).splitOn ",").mapM readField
      some ((if name.isEmpty then none else some (String.ofList name)), fields)
    else none

/-- A target, or none for the empty text. -/
def targetOf (cs : List Char) : Option String :=
  if cs.isEmpty then none else some (String.ofList cs)

/-- Reads one directive. -/
def Directive.parse? (s : String) : Option Directive :=
  match LevelFilter.parse? s with
  | some l => some { level := l }
  | none =>
    match s.toList.span (· ≠ '[') with
    | (target, _ :: rest) =>
      match rest.span (· ≠ ']') with
      | (inside, _ :: after) => do
        let level ← readLevelSuffix after
        let (span, fields) ← readSpan inside
        some { target := targetOf target, span := span, fields := fields, level := level }
      | (_, []) => none
    | (_, []) =>
      match s.toList.span (· ≠ '=') with
      | (target, []) => some { target := targetOf target, level := .trace }
      | (target, _ :: level) => do
        let l ← levelAfterEquals (String.ofList level)
        some { target := targetOf target, level := l }

/-- Whether a directive applies to plain events: it names no span and
    gives no field value. -/
def Directive.isStatic (d : Directive) : Bool := d.span.isNone && !d.fields.any (·.2)

/-- The names of the fields a directive names. -/
def Directive.fieldNames (d : Directive) : List String := d.fields.map (·.1)

/-! ### Filters -/

/-- A parsed filter: its directives, in the order given. -/
structure Filter where
  directives : List Directive
  deriving DecidableEq, Repr

namespace Filter

/-- Reads a filter; empty parts between commas are skipped. -/
def parse? (s : String) : Option Filter :=
  if s = "" then some ⟨[]⟩
  else ((s.splitOn ",").filter (· ≠ "")).mapM Directive.parse? |>.map Filter.mk

/-- The length of a directive's target, one more than nothing. -/
def specificity (d : Directive) : Nat := match d.target with
  | some t => t.length + 1
  | none => 0

/-- Whether one list of names comes after another, name by name. -/
def namesAfter : List String → List String → Bool
  | [], _ => false
  | _ :: _, [] => true
  | a :: as, b :: bs => if a = b then namesAfter as bs else decide (b < a)

/-- Whether directive `a` is tried before `b` for a target both cover:
    a longer target, then more fields, then greater field names. -/
def moreSpecific (a b : Directive) : Bool :=
  specificity a > specificity b ||
    (specificity a = specificity b &&
      (a.fields.length > b.fields.length ||
        (a.fields.length = b.fields.length && namesAfter a.fieldNames b.fieldNames)))

/-- Whether a directive's target covers an event target. -/
def covers (d : Directive) (target : String) : Bool :=
  match d.target with
  | some t => target.startsWith t
  | none => true

/-- The directive that decides for an event target: the most specific
    static directive that covers it, the later of two alike. -/
def decider? (f : Filter) (target : String) : Option Directive :=
  f.directives.foldl (fun best d =>
    if d.isStatic && covers d target then
      match best with
      | some b => if moreSpecific b d then some b else some d
      | none => some d
    else best) none

/-- Whether an event of `target` at `level` is allowed. -/
def allows (f : Filter) (target : String) (level : Level) : Bool :=
  match f.decider? target with
  | some d => level.rank ≤ d.level.rank
  | none => false

end Filter

end ReplHost.Logging
