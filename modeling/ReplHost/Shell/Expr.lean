import ReplHost.Shell.Regex
import ReplHost.Shell.Utilities

/-! # The `expr` utility

  `expr` evaluates an expression given as separate arguments and prints its
  value. From loosest to tightest:

  - `A | B`: A unless it is null, else B unless it is null, else 0;
  - `A & B`: A unless either is null, else 0;
  - `A < B`, `<=`, `=` (or `==`), `!=`, `>=`, `>`: 1 or 0, comparing as
    integers when both look like integers and as byte strings otherwise;
  - `A + B` and `A - B`; then `A * B`, `A / B` and `A % B`, on integers of
    any size, dividing towards zero;
  - `A : RE`: the match of a basic regular expression at the start of A,
    that is what its first group captured, or else the length matched;
  - `match A RE` (the same), `length A`, `index A CHARS` (the place of the
    first character of A that is among CHARS), `substr A POS LEN`, and `+ A`
    to take any word as a plain string;
  - `( E )` and plain arguments.

  Operators of one level group to the left. The right operand of `|` is
  only evaluated when the left is null, that of `&` when it is not: an
  operand that is not evaluated cannot fail. A value is null when it is
  zero or an empty string; a string of zeros, with or without a `-` before
  them, counts as zero. The exit status is 1 for a null value, 0 for any
  other, and 2 when the expression cannot be evaluated.
-/

namespace ReplHost.Shell

/-- A value of an expression. -/
inductive ExprValue where
  | int (n : Int)
  | str (s : String)
  deriving DecidableEq, Repr

namespace ExprValue

/-- How a value is printed. -/
def text : ExprValue → String
  | int n => Decimal.renderInt n
  | str s => s

/-- Whether a string looks like an integer: an optional `-` and digits. -/
def looksInteger (s : String) : Bool :=
  let ds := match s.toList with
    | '-' :: r => r
    | r => r
  !ds.isEmpty && ds.all Char.isDigit

/-- The integer a value stands for, if any. -/
def toInt? : ExprValue → Option Int
  | int n => some n
  | str s => if looksInteger s then decimalArg s else none

/-- Whether a value is null: zero, or an empty string. -/
def isNull : ExprValue → Bool
  | int n => n = 0
  | str s =>
    match s.toList with
    | [] => true
    | '-' :: r => !r.isEmpty && r.all (· = '0')
    | r => r.all (· = '0')

end ExprValue

/-- The operators of a level of binary operators, loosest first. -/
def exprOperators : Nat → List String
  | 0 => ["|"]
  | 1 => ["&"]
  | 2 => ["<", "<=", "=", "==", "!=", ">=", ">"]
  | 3 => ["+", "-"]
  | 4 => ["*", "/", "%"]
  | 5 => [":"]
  | _ => []

/-- `A : RE`: what the first group of the longest match at the start of A
    captured, or else the length of that match; when nothing matches, the
    empty string or 0 likewise. -/
def matchPrefix (l r : ExprValue) : Except String ExprValue :=
  match Regex.compile r.text with
  | .error e => .error e.message
  | .ok c =>
    let s := l.text
    match c.matchStart s with
    | some (n, spans) =>
      if c.groups > 0 then
        match spans[1]? with
        | some (some (a, b)) => .ok (.str (String.ofList ((s.toList.drop a).take (b - a))))
        | _ => .ok (.str "")
      else .ok (.int n)
    | none => .ok (if c.groups > 0 then .str "" else .int 0)

/-- Compares two values: as integers when both look like integers, and
    else as strings. -/
def compareValues (op : String) (l r : ExprValue) : Bool :=
  let ord := match l.toInt?, r.toInt? with
    | some a, some b => compare a b
    | _, _ => compare l.text r.text
  match op with
  | "<" => ord = .lt
  | "<=" => ord ≠ .gt
  | "=" | "==" => ord = .eq
  | "!=" => ord ≠ .eq
  | ">=" => ord ≠ .lt
  | _ => ord = .gt

/-- Applies a binary operator of level `lvl`; `ev` says whether the
    operation is evaluated, and an operation that is not keeps its left
    operand. -/
def combine (lvl : Nat) (ev : Bool) (op : String) (l r : ExprValue) : Except String ExprValue :=
  if lvl = 0 then .ok (if l.isNull then (if r.isNull then .int 0 else r) else l)
  else if lvl = 1 then .ok (if l.isNull || r.isNull then .int 0 else l)
  else if !ev then .ok l
  else if lvl = 2 then .ok (.int (if compareValues op l r then 1 else 0))
  else if lvl = 5 then matchPrefix l r
  else
    match l.toInt?, r.toInt? with
    | some a, some b =>
      if op = "+" then .ok (.int (a + b))
      else if op = "-" then .ok (.int (a - b))
      else if op = "*" then .ok (.int (a * b))
      else if b = 0 then .error "division by zero"
      else if op = "/" then .ok (.int (a.tdiv b))
      else .ok (.int (a.tmod b))
    | _, _ => .error "non-integer argument"

/-- The largest size a position or length may have; larger ones, and
    negative ones, are taken as this. -/
def sizeLimit : Nat := Nat.pow 2 64 - 1

/-- A value as a position or length. -/
def sizeOf (z : Int) : Nat := if 0 ≤ z && z ≤ sizeLimit then z.toNat else sizeLimit

/-- `substr A POS LEN`: LEN characters of A from place POS (counted from
    1), fewer at its end; empty when POS or LEN is out of range or not an
    integer. -/
def substrOf (s : ExprValue) (p n : ExprValue) : ExprValue :=
  let text := s.text
  match p.toInt?, n.toInt? with
  | some p, some n =>
    let pos := sizeOf p
    let len := sizeOf n
    if text.length < pos || pos = 0 || len = 0 || len = sizeLimit then .str ""
    else .str (String.ofList ((text.toList.drop (pos - 1)).take (min len (text.length - pos + 1))))
  | _, _ => .str ""

/-- `index A CHARS`: the place of the first character of A that is among
    CHARS, counted from 1, or 0. -/
def indexOf (s chars : ExprValue) : ExprValue :=
  match s.text.toList.findIdx? (chars.text.toList.contains ·) with
  | some i => .int (i + 1)
  | none => .int 0

mutual

/-- Evaluates an expression at level `lvl` from the front of `args`: its
    value and the arguments after it. Levels 0 to 5 are the binary
    operators, 6 the prefix words and 7 the operands. `last` is the last
    argument, which the messages about a missing one name. -/
def exprAt (last : String) (lvl : Nat) (ev : Bool) (args : List String) :
    Nat → Except String (ExprValue × List String)
  | 0 => .error "syntax error"
  | fuel + 1 =>
    if lvl ≤ 5 then do
      let (l, rest) ← exprAt last (lvl + 1) ev args fuel
      exprMore last lvl ev l rest fuel
    else if lvl = 6 then
      match args with
      | "+" :: rest =>
        match rest with
        | a :: more => pure (.str a, more)
        | [] => .error ("syntax error: missing argument after " ++ quoteArg last)
      | "length" :: rest => do
        let (v, rest) ← exprAt last 6 ev rest fuel
        pure (.int v.text.length, rest)
      | "match" :: rest => do
        let (l, rest) ← exprAt last 6 ev rest fuel
        let (r, rest) ← exprAt last 6 ev rest fuel
        if ev then do
          let v ← matchPrefix l r
          pure (v, rest)
        else pure (.int 0, rest)
      | "index" :: rest => do
        let (l, rest) ← exprAt last 6 ev rest fuel
        let (r, rest) ← exprAt last 6 ev rest fuel
        pure (indexOf l r, rest)
      | "substr" :: rest => do
        let (l, rest) ← exprAt last 6 ev rest fuel
        let (p, rest) ← exprAt last 6 ev rest fuel
        let (n, rest) ← exprAt last 6 ev rest fuel
        pure (substrOf l p n, rest)
      | _ => exprAt last 7 ev args fuel
    else
      match args with
      | [] => .error ("syntax error: missing argument after " ++ quoteArg last)
      | "(" :: rest => do
        let (v, rest) ← exprAt last 0 ev rest fuel
        match rest with
        | [] => .error ("syntax error: expecting ')' after " ++ quoteArg last)
        | ")" :: more => pure (v, more)
        | a :: _ => .error ("syntax error: expecting ')' instead of " ++ quoteArg a)
      | ")" :: _ => .error "syntax error: unexpected ')'"
      | a :: rest => pure (.str a, rest)

/-- Goes on after the left operand `l` of level `lvl` while an operator of
    that level follows. -/
def exprMore (last : String) (lvl : Nat) (ev : Bool) (l : ExprValue) (args : List String) :
    Nat → Except String (ExprValue × List String)
  | 0 => .error "syntax error"
  | fuel + 1 =>
    match args with
    | op :: rest =>
      if (exprOperators lvl).contains op then do
        let evRight := if lvl = 0 then ev && l.isNull else if lvl = 1 then ev && !l.isNull else ev
        let (r, rest) ← exprAt last (lvl + 1) evRight rest fuel
        let v ← combine lvl ev op l r
        exprMore last lvl ev v rest fuel
      else pure (l, args)
    | [] => pure (l, [])

end

/-- `expr ARGS…`: prints the value; the status is 1 when it is null, 2
    when the expression cannot be evaluated. A first `--` is skipped. -/
def expr (args : List String) : Result :=
  let args := match args with
    | "--" :: rest => rest
    | _ => args
  let fail := fun (msg : String) => { err := bytesOf ("expr: " ++ msg ++ "\n"), status := 2 : Result }
  if args.isEmpty then
    { err := bytesOf "expr: missing operand\nTry 'expr --help' for more information.\n", status := 2 }
  else
    match exprAt (args.getLast?.getD "") 0 true args (10 * args.length + 20) with
    | .error msg => fail msg
    | .ok (v, []) => { out := bytesOf (v.text ++ "\n"), status := if v.isNull then 1 else 0 }
    | .ok (_, a :: _) => fail ("syntax error: unexpected argument " ++ quoteArg a)

end ReplHost.Shell
