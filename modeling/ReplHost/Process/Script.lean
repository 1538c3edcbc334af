import ReplHost.Text.Chars
import ReplHost.Text.Decimal
import ReplHost.Text.Utf8

/-! # A scripted console program

  A small line-oriented program to run in an in-memory process. In `sum`
  mode it adds numbers: a line of integers joined by `+` is answered with
  the sum, any other line with itself; `:quit` ends the program, `:exit N`
  ends it with code `N`. In `echo` mode every line is answered with a
  prompt only, and in `silent` mode nothing is answered. Every answer
  repeats the line first, as a terminal would, and ends with the prompt
  `>> `.
-/

namespace ReplHost

/-- How the scripted program answers lines. -/
inductive ReplMode where
  | sum
  | echo
  | silent
  deriving DecidableEq, Repr

/-- What the program does in answer to a line. -/
inductive Reply where
  /-- Writes output. -/
  | output (text : String)
  /-- Exits with a code. -/
  | exit (code : Int)
  deriving DecidableEq, Repr

/-- The greeting a scripted program prints when it starts. -/
def defaultGreeting : String := "Welcome to the scripted REPL\r\n>> "

/-- Reads a signed decimal integer with an optional sign, within
    `-bound - 1 .. bound`. -/
def readSigned? (bound : Nat) (s : String) : Option Int :=
  match s.toList with
  | '-' :: ds => (Decimal.readDigits? ds).bind fun n =>
      if n ≤ bound + 1 then some (-(n : Int)) else none
  | '+' :: ds => (Decimal.readDigits? ds).bind fun n => if n ≤ bound then some (n : Int) else none
  | ds => (Decimal.readDigits? ds).bind fun n => if n ≤ bound then some (n : Int) else none

/-- The largest 64-bit signed integer. -/
def int64Max : Nat := Nat.pow 2 63 - 1

/-- The largest 32-bit signed integer. -/
def int32Max : Nat := Nat.pow 2 31 - 1

/-- Adds integers while the sum stays 64-bit. -/
def checkedSum (xs : List Int) : Option Int :=
  xs.foldlM (fun acc x =>
    let s := acc + x
    if -(int64Max : Int) - 1 ≤ s && s ≤ int64Max then some s else none) 0

/-- The sum a line asks for: integers joined by `+`, blanks around them. -/
def lineSum? (line : String) : Option Int :=
  (line.splitOn "+").mapM (fun part => readSigned? int64Max (Text.trimString part)) |>.bind checkedSum

namespace ReplMode

/-- How the program answers one input line. -/
def answer (mode : ReplMode) (line : String) : List Reply :=
  match mode with
  | silent => []
  | echo => [.output (line ++ "\r\n>> ")]
  | sum =>
    let t := Text.trimString line
    if t = ":quit" then [.output (line ++ "\r\n"), .exit 0]
    else
      match (Text.stripPrefix? ":exit ".toList t.toList).bind
          (fun n => readSigned? int32Max (Text.trimString (String.ofList n))) with
      | some code => [.output (line ++ "\r\n"), .exit code]
      | none =>
        let result := match lineSum? line with
          | some n => Decimal.renderInt n
          | none => line
        [.output (line ++ "\r\n" ++ result ++ "\r\n>> ")]

end ReplMode

end ReplHost
