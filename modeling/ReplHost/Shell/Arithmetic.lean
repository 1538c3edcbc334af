import ReplHost.Shell.Grammar
import ReplHost.Shell.Utilities

/-! # Shell command language: arithmetic

  `$((…))` evaluates an integer expression after its parameters have been
  expanded. Numbers are read as the shell reads integers: hexadecimal after
  `0x`, octal after `0`, decimal otherwise; a name stands for the value of
  the variable (zero when unset or empty). The operators, loosest first,
  are `?:`, `||`, `&&`, `|`, `^`, `&`, `==` and `!=`, `<` `<=` `>` `>=`,
  `<<` and `>>`, `+` and `-`, `*` `/` `%`, then the unary `-`, `+`, `!`,
  `~` and parentheses; the assignments `=`, `+=` … set the variable.
  Values are 64-bit words that wrap around.

  The right side of `&&` and `||` and the branch of `?:` not taken are read
  but not evaluated: a division by zero there is no error, and they assign
  nothing.
-/

namespace ReplHost.Shell

/-- A token of an arithmetic expression. -/
inductive ArithToken where
  | num (n : Int)
  | name (s : String)
  | op (s : String)
  deriving DecidableEq, Repr

/-- Why an arithmetic expression has no value. -/
inductive ArithError where
  /-- The expression is malformed, or divides by zero. -/
  | malformed (msg : String)
  /-- A variable holds text that is not a number. -/
  | badNumber (text : String)
  deriving DecidableEq, Repr

/-- The message of an arithmetic error for expression `expr`. -/
def ArithError.message (expr : String) : ArithError → String
  | .malformed msg => "arithmetic expression: " ++ msg ++ ": \"" ++ expr ++ "\""
  | .badNumber text => "Illegal number: " ++ text

/-- The operators, longest first, so that the longest match is read. -/
def arithOperators : List String :=
  ["<<=", ">>=", "<=", ">=", "==", "!=", "&&", "||", "<<", ">>", "+=", "-=", "*=", "/=", "%=",
   "&=", "^=", "|=", "<", ">", "+", "-", "*", "/", "%", "&", "^", "|", "!", "~", "=", "?", ":",
   "(", ")"]

/-- Wraps an integer to a signed 64-bit word. -/
def wrap64 (v : Int) : Int :=
  let m := v % (Int.pow 2 64 : Int)
  if m ≥ Int.pow 2 63 then m - Int.pow 2 64 else m

/-- Splits an arithmetic expression into tokens. -/
def arithTokens (acc : List ArithToken) : List Char → (fuel : Nat) → List ArithToken
  | _, 0 => acc.reverse
  | [], _ + 1 => acc.reverse
  | c :: cs, fuel + 1 =>
    if c = ' ' || c = '\t' || c = '\n' then arithTokens acc cs fuel
    else if c.isDigit then
      let (v, _, rest) := match c, cs with
        | '0', x :: r =>
          if (x = 'x' || x = 'X') && (r.head?.bind (digitValueIn 16)).isSome then digitsPrefix 16 0 0 r
          else digitsPrefix 8 0 0 (c :: cs)
        | _, _ => digitsPrefix 10 0 0 (c :: cs)
      arithTokens (.num (wrap64 v) :: acc) rest fuel
    else if isNameStart c then
      let (ns, rest) := (c :: cs).span isNameChar
      arithTokens (.name (String.ofList ns) :: acc) rest fuel
    else
      let text := String.ofList (c :: cs)
      match arithOperators.find? (fun o => text.startsWith o) with
      | some o => arithTokens (.op o :: acc) ((c :: cs).drop o.length) fuel
      | none => arithTokens (.op (String.singleton c) :: acc) cs fuel

/-- Variables as arithmetic sees them, with those it has assigned. -/
structure ArithState where
  lookup : String → Option String
  assigned : List (String × String) := []

namespace ArithState

/-- The text of a variable. -/
def text (st : ArithState) (name : String) : String :=
  ((st.assigned.lookup name).orElse fun _ => st.lookup name).getD ""

/-- The value of a variable: blanks or nothing are zero, other text that is
    not a number is an error. -/
def value (st : ArithState) (name : String) : Except ArithError Int :=
  let t := st.text name
  let trimmed := String.ofList (t.toList.reverse.dropWhile (fun c => c = ' ' || c = '\t' || c = '\n')).reverse
  if trimmed.all (fun c => c = ' ' || c = '\t' || c = '\n') then .ok 0
  else
    match readInteger trimmed with
    | (v, .complete) => .ok (wrap64 v)
    | _ => .error (.badNumber t)

/-- Assigns a variable, unless evaluation is off. -/
def assign (st : ArithState) (noeval : Bool) (name : String) (v : Int) : ArithState :=
  if noeval then st
  else { st with assigned := (name, Decimal.renderInt v) :: st.assigned.filter (·.1 ≠ name) }

end ArithState

/-- Binary operators by precedence level, loosest first. -/
def arithLevels : List (List String) :=
  [["||"], ["&&"], ["|"], ["^"], ["&"], ["==", "!="], ["<", ">", "<=", ">="], ["<<", ">>"],
   ["+", "-"], ["*", "/", "%"]]

/-- Bits of a word as a natural number. -/
def toWord (a : Int) : Nat := (a % (Int.pow 2 64 : Int)).toNat

/-- Applies a binary operator; division by zero is an error unless
    evaluation is off. -/
def arithApply (noeval : Bool) (o : String) (a b : Int) : Except ArithError Int :=
  let bool := fun (p : Bool) => if p then (1 : Int) else 0
  match o with
  | "/" | "%" =>
    if b = 0 then (if noeval then .ok 0 else .error (.malformed "division by zero"))
    else .ok (wrap64 (if o = "/" then a.tdiv b else a.tmod b))
  | "+" => .ok (wrap64 (a + b))
  | "-" => .ok (wrap64 (a - b))
  | "*" => .ok (wrap64 (a * b))
  | "<<" => .ok (wrap64 (a * Int.pow 2 (toWord b % 64)))
  | ">>" => .ok (a / Int.pow 2 (toWord b % 64))
  | "&" => .ok (wrap64 ((toWord a &&& toWord b : Nat) : Int))
  | "|" => .ok (wrap64 ((toWord a ||| toWord b : Nat) : Int))
  | "^" => .ok (wrap64 ((toWord a ^^^ toWord b : Nat) : Int))
  | "<" => .ok (bool (a < b))
  | ">" => .ok (bool (a > b))
  | "<=" => .ok (bool (a ≤ b))
  | ">=" => .ok (bool (a ≥ b))
  | "==" => .ok (bool (a = b))
  | "!=" => .ok (bool (a ≠ b))
  | "&&" => .ok (bool (a ≠ 0 && b ≠ 0))
  | "||" => .ok (bool (a ≠ 0 || b ≠ 0))
  | _ => .error (.malformed "expecting EOF")

/-- The assignment operators. -/
def assignOperators : List String := ["=", "+=", "-=", "*=", "/=", "%=", "<<=", ">>=", "&=", "^=", "|="]

/-- What evaluating part of an expression gives: its value, the tokens
    left, and the variables. -/
abbrev ArithResult := Except ArithError (Int × List ArithToken × ArithState)

mutual

/-- An assignment `name op= expr`, or a conditional expression. -/
def arithAssign (noeval : Bool) : (fuel : Nat) → ArithState → List ArithToken → ArithResult
  | 0, _, _ => .error (.malformed "expecting primary")
  | fuel + 1, st, ts =>
    match ts with
    | .name v :: .op o :: rest =>
      if assignOperators.contains o then do
        let (r, rest, st) ← arithAssign noeval fuel st rest
        let new ← if o = "=" then pure r
          else do
            let old ← st.value v
            arithApply noeval (String.ofList (o.toList.dropLast)) old r
        pure (new, rest, st.assign noeval v new)
      else arithCond noeval fuel st ts
    | _ => arithCond noeval fuel st ts

/-- `cond ? a : b`, or a binary expression. -/
def arithCond (noeval : Bool) : (fuel : Nat) → ArithState → List ArithToken → ArithResult
  | 0, _, _ => .error (.malformed "expecting primary")
  | fuel + 1, st, ts => do
    let (c, rest, st) ← arithLevel noeval fuel 0 st ts
    match rest with
    | .op "?" :: more =>
      let (a, rest, st) ← arithAssign (noeval || c = 0) fuel st more
      match rest with
      | .op ":" :: more =>
        let (b, rest, st) ← arithCond (noeval || c ≠ 0) fuel st more
        pure (if c ≠ 0 then a else b, rest, st)
      | _ => .error (.malformed "expecting ':'")
    | _ => pure (c, rest, st)

/-- A binary expression at precedence level `lvl` and tighter. -/
def arithLevel (noeval : Bool) : (fuel : Nat) → Nat → ArithState → List ArithToken → ArithResult
  | 0, _, _, _ => .error (.malformed "expecting primary")
  | fuel + 1, lvl, st, ts =>
    match arithLevels[lvl]? with
    | none => arithUnary noeval fuel st ts
    | some ops => do
      let (a, rest, st) ← arithLevel noeval fuel (lvl + 1) st ts
      arithChain noeval fuel lvl ops a st rest

/-- Continues a chain of operators of one level, left to right. -/
def arithChain (noeval : Bool) : (fuel : Nat) → Nat → List String → Int → ArithState →
    List ArithToken → ArithResult
  | 0, _, _, _, _, _ => .error (.malformed "expecting primary")
  | fuel + 1, lvl, ops, a, st, ts =>
    match ts with
    | .op o :: rest =>
      if ops.contains o then do
        let skip := noeval || (o = "&&" && a = 0) || (o = "||" && a ≠ 0)
        let (b, rest, st) ← arithLevel skip fuel (lvl + 1) st rest
        let v ← arithApply skip o a b
        arithChain noeval fuel lvl ops v st rest
      else pure (a, ts, st)
    | _ => pure (a, ts, st)

/-- A unary expression: a sign, `!` or `~` before one, a parenthesised
    expression, a number or a variable. -/
def arithUnary (noeval : Bool) : (fuel : Nat) → ArithState → List ArithToken → ArithResult
  | 0, _, _ => .error (.malformed "expecting primary")
  | fuel + 1, st, ts =>
    match ts with
    | .op "-" :: rest => do
      let (a, r, st) ← arithUnary noeval fuel st rest
      pure (wrap64 (-a), r, st)
    | .op "+" :: rest => arithUnary noeval fuel st rest
    | .op "!" :: rest => do
      let (a, r, st) ← arithUnary noeval fuel st rest
      pure (if a = 0 then 1 else 0, r, st)
    | .op "~" :: rest => do
      let (a, r, st) ← arithUnary noeval fuel st rest
      pure (-a - 1, r, st)
    | .op "(" :: rest => do
      let (a, r, st) ← arithAssign noeval fuel st rest
      match r with
      | .op ")" :: r' => pure (a, r', st)
      | _ => .error (.malformed "expecting ')'")
    | .num n :: rest => pure (n, rest, st)
    | .name v :: rest => do
      let x ← if noeval then pure 0 else st.value v
      pure (x, rest, st)
    | _ => .error (.malformed "expecting primary")

end

/-- The value of an arithmetic expression and the variables it assigned. -/
def arith (lookup : String → Option String) (expr : String) :
    Except ArithError (Int × List (String × String)) :=
  let ts := arithTokens [] expr.toList (expr.length + 1)
  if ts.isEmpty then .ok (0, [])
  else
    match arithAssign false (16 * (ts.length + 2)) { lookup := lookup } ts with
    | .ok (v, [], st) => .ok (v, st.assigned.reverse)
    | .ok (_, _ :: _, _) => .error (.malformed "expecting EOF")
    | .error e => .error e

end ReplHost.Shell
