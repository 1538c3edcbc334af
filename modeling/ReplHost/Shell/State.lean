import ReplHost.Shell.Expand
import ReplHost.Shell.Utilities
import ReplHost.Shell.Signals
import ReplHost.Shell.Getopts
import ReplHost.Shell.Umask
import ReplHost.Os.Files
import ReplHost.Process.Spec

/-! # Shell command language: the shell's state

  A shell's execution `Environment` holds what commands can change and
  later commands can see:
  variables and which of them are exported, functions, the working
  directory, the positional parameters, the status of the last command, the
  options, the traps, and the file system, where output redirected to a
  file lands.

  The environment a shell passes to the programs it starts lists the
  exported variables in the order of the shell's variable table: a name
  goes to one of 39 buckets by a sum of its characters, and within a bucket
  the shell's fixed variables come first (the last of them first), then the
  others in the order they were first set.

  The `test` builtin reads its arguments as POSIX says: up to four
  arguments by their number, more by a grammar of `!`, `-a`, `-o` and
  parentheses.
-/

namespace ReplHost.Shell

/-- A shell's execution environment: its state between commands. -/
structure Environment where
  /-- Variables, in the order they were first set. -/
  vars : List (String × String)
  /-- Names of exported variables, set or not. -/
  exported : List String
  /-- Names of variables that cannot be changed or unset. -/
  readonly : List String := []
  /-- The working directory. -/
  cwd : String
  /-- The status of the last command. -/
  status : Nat := 0
  /-- The shell's name, used in error messages and as `$0`. -/
  arg0 : String := "sh"
  /-- Positional parameters. -/
  args : List String := []
  /-- Functions, by name. -/
  functions : List (String × Cmd) := []
  /-- Whether a failing command ends the shell (`set -e`). -/
  errexit : Bool := false
  /-- Whether expanding an unset parameter is an error (`set -u`). -/
  nounset : Bool := false
  /-- Whether each simple command is written to standard error before it
      runs (`set -x`). -/
  xtrace : Bool := false
  /-- The traps set, by signal number in increasing order, 0 standing for
      the shell's exit: the commands run when the signal comes, or the
      empty string for a signal ignored. -/
  traps : List (Nat × String) := []
  /-- Whether commands are read from the terminal. -/
  interactive : Bool := false
  /-- The letters of the other options turned on, whose effects are not
      followed here (`-f`, `-v`, `-C`, `-a` …). -/
  otherOptions : List Char := []
  /-- Programs found on the search path and remembered, with where they
      were found, in the order they were remembered. -/
  remembered : List (String × String) := []
  /-- How many lines were read before the current command line, for the
      line numbers of messages. -/
  lineOffset : Nat := 0
  /-- The file system it sees. -/
  fs : FileSystem
  /-- The terminal size. -/
  size : TermSize := {}
  /-- Whether the terminal echoes what is typed. -/
  echo : Bool := true
  /-- The shell's process number. -/
  pid : Nat := 1
  /-- Where `getopts` goes on from. -/
  cursor : OptCursor := {}
  /-- The file creation mask. -/
  mask : Nat := startMask
  /-- Aliases, by name, in the order they were first defined. -/
  aliases : List (String × String) := []
  /-- The command whose text runs now, named in the messages of the
      commands it runs: `eval`, or none at the top of a script. -/
  context : Option String := none

/-- The name and the value of an operand `name=value` of `export`,
    `readonly` and `local`; an operand without `=` is a name alone. -/
def splitAssignment (a : String) : String × Option String :=
  match a.toList.span (· ≠ '=') with
  | (n, '=' :: v) => (String.ofList n, some (String.ofList v))
  | (n, _) => (String.ofList n, none)

/-- The message for a change to a read-only variable. -/
def readonlyMessage (name : String) : String := name ++ ": is read only"

namespace Environment

/-- The option letters in the shell's order of its options. -/
def optionOrder : List Char := "efIimnsxvVECabu".toList

/-- Whether the option of a letter is on. A shell reading commands from the
    terminal is interactive, reads standard input and has job control. -/
def optionOn (sh : Environment) (c : Char) : Bool :=
  match c with
  | 'e' => sh.errexit
  | 'u' => sh.nounset
  | 'x' => sh.xtrace
  | 'i' | 's' | 'm' => sh.interactive || sh.otherOptions.contains c
  | c => sh.otherOptions.contains c

/-- `$-`: the letters of the options that are on, last option first. -/
def optionLetters (sh : Environment) : String :=
  String.ofList (optionOrder.reverse.filter sh.optionOn)

/-- The parameters seen by expansion. -/
def scope (sh : Environment) : Scope :=
  { vars := sh.vars, args := sh.args, arg0 := sh.arg0, status := sh.status, pid := sh.pid,
    options := sh.optionLetters, readonly := sh.readonly }

/-- The trap set for a signal. -/
def trapOf (sh : Environment) (n : Nat) : Option String := sh.traps.lookup n

/-- Sets the trap for a signal (`none`: the signal does what it does by
    default), keeping the traps in the order of their numbers. -/
def withTrap (sh : Environment) (n : Nat) (action : Option String) : Environment :=
  let others := sh.traps.filter (·.1 ≠ n)
  match action with
  | none => { sh with traps := others }
  | some a => { sh with traps := others.filter (·.1 < n) ++ [(n, a)] ++ others.filter (n < ·.1) }

/-- Sets the trap of each signal named, in turn, to `action`; stops at
    the first name that names no signal and returns it. -/
def setTraps (sh : Environment) (action : Option String) : List String → Environment × Option String
  | [] => (sh, none)
  | a :: more =>
    match decodeSignal a 0 with
    | some n => (sh.withTrap n action).setTraps action more
    | none => (sh, some a)

/-- The shell a subshell starts as: the traps that run commands are taken
    away, those that ignore a signal stay. -/
def childShell (sh : Environment) : Environment :=
  { sh with traps := sh.traps.filter (·.2.isEmpty) }

/-- The home directory. -/
def home (sh : Environment) : String := (sh.vars.lookup "HOME").getD "/"

/-- Turns the options named by letters on or off: `e`, `u` and `x` change
    how the shell runs; the other option letters are only remembered. -/
def setOptions (sh : Environment) (letters : List Char) (on : Bool) : Environment :=
  letters.foldl (fun sh c =>
    match c with
    | 'e' => { sh with errexit := on }
    | 'u' => { sh with nounset := on }
    | 'x' => { sh with xtrace := on }
    | c =>
      if !optionOrder.contains c then sh
      else if on then { sh with otherOptions := sh.otherOptions.filter (· ≠ c) ++ [c] }
      else { sh with otherOptions := sh.otherOptions.filter (· ≠ c) }) sh

/-- Sets a variable; a new one goes last. Setting `PATH` forgets where
    programs were found, and setting `OPTIND` starts `getopts` over from
    that index. -/
def setVar (sh : Environment) (name value : String) : Environment :=
  let sh := if name = "PATH" && sh.vars.lookup name ≠ some value then { sh with remembered := [] } else sh
  let sh := if name = "OPTIND" then { sh with cursor := { index := (countArg value).getD 1 } } else sh
  if sh.vars.any (·.1 = name) then
    { sh with vars := sh.vars.map fun (k, v) => if k = name then (k, value) else (k, v) }
  else { sh with vars := sh.vars ++ [(name, value)] }

/-- The variables every shell sets when it starts, unless its environment
    gives them: the field separators, the index of `getopts`, the parent's
    process number, the prompts of the superuser, and the search path. -/
def startVariables : List (String × String) :=
  [("IFS", " \t\n"), ("OPTIND", "1"), ("PPID", "0"), ("PS1", "# "), ("PS2", "> "), ("PS4", "+ "),
   ("PATH", "/usr/local/sbin:/usr/local/bin:/usr/sbin:/usr/bin:/sbin:/bin")]

/-- A shell with the variables it starts with. -/
def withStartVariables (sh : Environment) : Environment :=
  startVariables.foldl (fun sh (n, v) => if sh.vars.any (·.1 = n) then sh else sh.setVar n v) sh

/-- Whether a variable cannot be changed. -/
def isReadonly (sh : Environment) (name : String) : Bool := sh.readonly.contains name

/-- Marks a variable read-only. -/
def markReadonly (sh : Environment) (name : String) : Environment :=
  if sh.readonly.contains name then sh else { sh with readonly := sh.readonly ++ [name] }

/-- Marks a variable exported. -/
def exportVar (sh : Environment) (name : String) : Environment :=
  if sh.exported.contains name then sh else { sh with exported := sh.exported ++ [name] }

/-- Removes a variable. -/
def unsetVar (sh : Environment) (name : String) : Environment :=
  { sh with vars := sh.vars.filter (·.1 ≠ name), exported := sh.exported.filter (· ≠ name) }

/-- Applies the operands of `export` or `readonly` (the builtin `cmd`) in
    turn: `name=value` sets the variable, and `mark` marks the name. Stops
    at the first operand that is no name, or that would change a read-only
    variable, with the message. -/
def markVariables (mark : Environment → String → Environment) (cmd : String) (sh : Environment) :
    List String → Environment × Option String
  | [] => (sh, none)
  | a :: rest =>
    let (n, v) := splitAssignment a
    if !isName n then (sh, some (cmd ++ ": " ++ n ++ ": bad variable name"))
    else
      match v with
      | some v =>
        if sh.isReadonly n then (sh, some (cmd ++ ": " ++ readonlyMessage n))
        else markVariables mark cmd (mark (sh.setVar n v) n) rest
      | none => markVariables mark cmd (mark sh n) rest

/-- Removes the variables named, in turn; stops at the first operand that
    is no name or a read-only variable, with the message. -/
def unsetVariables (sh : Environment) : List String → Environment × Option String
  | [] => (sh, none)
  | n :: rest =>
    if !isName n then (sh, some ("unset: " ++ n ++ ": bad variable name"))
    else if sh.isReadonly n then (sh, some ("unset: " ++ readonlyMessage n))
    else unsetVariables (sh.unsetVar n) rest

/-- The line a message names: a line of the current command text. -/
def lineOf (sh : Environment) (line : Nat) : Nat := sh.lineOffset + line

/-- An error message in the shell's form: the shell's name, the line, and
    the command whose text runs, if any. -/
def complain (sh : Environment) (line : Nat) (msg : String) : List UInt8 :=
  let within := match sh.context with
    | some c => c ++ ": "
    | none => ""
  bytesOf (sh.arg0 ++ ": " ++ Decimal.render (sh.lineOf line) ++ ": " ++ within ++ msg ++ "\n")

/-- The search path. -/
def searchPath (sh : Environment) : List String :=
  ((sh.vars.lookup "PATH").getD "/usr/bin:/bin").splitOn ":"

/-- The absolute path, as the file system names it, of a path in the
    shell's text, seen from the working directory. -/
def locate (sh : Environment) (path : String) : Except IoError String :=
  sh.fs.resolve (fsName sh.cwd) (fsName path)

/-- Reads the file at a path in the shell's text. -/
def readFile (sh : Environment) (path : String) : Except IoError (List UInt8) :=
  sh.fs.read (fsName sh.cwd) (fsName path)

/-- The home directory of a user in the password file: the sixth field of
    the line whose first field is the name. -/
def passwdHome (passwd : String) (user : String) : Option String :=
  (passwd.splitOn "\n").findSome? fun line =>
    match line.splitOn ":" with
    | name :: _ :: _ :: _ :: _ :: dir :: _ => if name = user then some dir else none
    | _ => none

/-- The directory `~user` stands for: for the empty name the shell's
    `HOME`, when set and not empty; for another, the user's entry in the
    password file. -/
def homeOf (sh : Environment) (user : String) : Option String :=
  if user.isEmpty then
    match sh.vars.lookup "HOME" with
    | some h => if h.isEmpty then none else some h
    | none => none
  else
    match sh.readFile "/etc/passwd" with
    | .ok bytes => passwdHome (textOf bytes) user
    | .error _ => none

/-- The first match for a name on the search path. -/
def findProgramOnPath (sh : Environment) (name : String) : Option String :=
  (sh.searchPath.map fun d => if d.endsWith "/" then d ++ name else d ++ "/" ++ name).find?
    fun p => sh.fs.isProgram (fsName p)

/-- Remembers where a program was found on the search path; a program
    already remembered keeps its place. -/
def remember (sh : Environment) (name path : String) : Environment :=
  if sh.remembered.any (·.1 = name) then sh
  else { sh with remembered := sh.remembered ++ [(name, path)] }

/-- Defines an alias, or changes the text of one defined before. -/
def setAlias (sh : Environment) (name value : String) : Environment :=
  if sh.aliases.any (·.1 = name) then
    { sh with aliases := sh.aliases.map fun (n, v) => if n = name then (n, value) else (n, v) }
  else { sh with aliases := sh.aliases ++ [(name, value)] }

/-- The bucket of the shell's command table a name goes to. -/
def commandBucket (name : String) : Nat :=
  let codes := name.toList.map Char.toNat
  ((codes.headD 0) * 16 + codes.foldr (· + ·) 0) % 32768 % 31

/-- The remembered programs in the order of the shell's command table. -/
def rememberedInTable (sh : Environment) : List (String × String) :=
  (List.range 31).flatMap fun b => sh.remembered.filter (commandBucket ·.1 = b)

/-- The path of the program a command name runs: the name itself when it
    has a slash, else the first match on the search path. -/
def findProgram (sh : Environment) (name : String) : Option String :=
  if name.contains '/' then
    match sh.locate name with
    | .ok p => if sh.fs.isProgram p then some (rawText p) else none
    | .error _ => none
  else sh.findProgramOnPath name

end Environment

/-! ### The environment of programs -/

/-- The variables every shell has, in the order its table holds them. -/
def fixedVariables : List String :=
  ["IFS", "MAIL", "MAILPATH", "PATH", "PS1", "PS2", "PS4", "OPTIND", "LINENO", "TERM", "HISTSIZE"]

/-- The bucket of a name in the variable table: its first character counted
    sixteen times more, all characters summed, modulo 39. -/
def bucketOf (name : String) : Nat :=
  let first := (name.toList.head?.map Char.toNat).getD 0
  (16 * first + (name.toList.map Char.toNat).foldr (· + ·) 0) % 39

/-- The aliases in the order of the shell's alias table: by the bucket of
    their names, as in the variable table, then in the order defined. -/
def Environment.aliasesInTable (sh : Environment) : List (String × String) :=
  (List.range 39).flatMap fun b => sh.aliases.filter (bucketOf ·.1 = b)

/-- How `alias` shows an alias. -/
def aliasLine (a : String × String) : String := a.1 ++ "=" ++ quoteValue a.2 ++ "\n"

/-- Where a variable stands in the table: its bucket, then fixed variables
    first, in reverse order, then the order of setting. -/
def tableRank (vars : List (String × String)) (name : String) : Nat × Nat :=
  let within := match fixedVariables.idxOf? name with
    | some i => fixedVariables.length - i
    | none => fixedVariables.length + 1 + ((vars.map Prod.fst).idxOf name)
  (bucketOf name, within)

/-- Whether one rank comes before another. -/
def rankLe (a b : Nat × Nat) : Bool := a.1 < b.1 || (a.1 = b.1 && a.2 ≤ b.2)

/-- The environment a shell passes to programs: its exported variables, in
    table order. -/
def Environment.programEnvironment (sh : Environment) : List (String × String) :=
  let exported := sh.vars.filter fun (k, _) => sh.exported.contains k
  exported.mergeSort fun a b => rankLe (tableRank sh.vars a.1) (tableRank sh.vars b.1)

/-! ### `test` -/

/-- How `test` reads a file test. -/
def fileTest (sh : Environment) (op path : String) : Bool :=
  match sh.locate path with
  | .error _ => false
  | .ok p =>
    let isFile := (sh.fs.file? p).isSome
    match op with
    | "-e" => sh.fs.isDir p || isFile
    | "-f" => isFile
    | "-d" => sh.fs.isDir p
    | "-x" => sh.fs.isDir p || sh.fs.isProgram p
    | "-r" | "-w" => sh.fs.isDir p || isFile
    | "-s" => sh.fs.isDir p || ((sh.fs.file? p).map (!·.isEmpty)).getD false
    | _ => false

/-- The unary operators of `test`. -/
def unaryTests : List String :=
  ["-n", "-z", "-e", "-f", "-d", "-x", "-r", "-w", "-s", "-h", "-L", "-b", "-c", "-p", "-S", "-t", "-g", "-u", "-k", "-O", "-G"]

/-- The binary operators of `test`. -/
def binaryTests : List String :=
  ["=", "!=", "<", ">", "-eq", "-ne", "-lt", "-le", "-gt", "-ge", "-nt", "-ot", "-ef"]

/-- Reads an integer operand of `test`: blanks, a sign, digits and blanks,
    of a value that fits in 64 bits. -/
def testNumber (a : String) : Except String Int :=
  let cs := a.toList.dropWhile isCBlank
  let (negative, cs) := match cs with
    | '-' :: r => (true, r)
    | '+' :: r => (false, r)
    | r => (false, r)
  let digits := cs.takeWhile Char.isDigit
  let v : Int := (Decimal.valueOf digits : Int)
  let v := if negative then -v else v
  if digits.isEmpty || !(cs.dropWhile Char.isDigit).all isCBlank ||
      v < -(Int.pow 2 63 : Int) || v ≥ (Int.pow 2 63 : Int) then .error (illegalNumber a)
  else .ok v

/-- Evaluates a unary test; `terminal` tells which file descriptors are
    terminals, for `-t`. -/
def unaryTest (sh : Environment) (terminal : Nat → Bool) (op a : String) : Except String Bool :=
  match op with
  | "-n" => .ok !a.isEmpty
  | "-z" => .ok a.isEmpty
  | "-t" => do
    let fd ← testNumber a
    pure (0 ≤ fd && terminal fd.toNat)
  | "-h" | "-L" | "-b" | "-c" | "-p" | "-S" | "-g" | "-u" | "-k" => .ok false
  | "-O" | "-G" => .ok (fileTest sh "-e" a)
  | _ => .ok (fileTest sh op a)

/-- Evaluates a binary test. -/
def binaryTest (op a b : String) : Except String Bool :=
  match op with
  | "=" => .ok (a = b)
  | "!=" => .ok (a ≠ b)
  | "<" => .ok (a < b)
  | ">" => .ok (b < a)
  | "-nt" | "-ot" | "-ef" => .ok false
  | _ => do
    let x ← testNumber a
    let y ← testNumber b
    match op with
    | "-eq" => pure (x = y)
    | "-ne" => pure (x ≠ y)
    | "-lt" => pure (x < y)
    | "-le" => pure (x ≤ y)
    | "-gt" => pure (x > y)
    | _ => pure (x ≥ y)

/-- An operator of `test`. -/
inductive TestOp where
  /-- A test of one operand. -/
  | unary (name : String)
  /-- A test of two operands. -/
  | binary (name : String)
  /-- `!`. -/
  | negation
  /-- `-a`. -/
  | conjunction
  /-- `-o`. -/
  | disjunction
  /-- `(`. -/
  | opening
  /-- `)`. -/
  | closing
  deriving DecidableEq, Repr

/-- The operator a word spells, if any. -/
def testOp? (w : String) : Option TestOp :=
  if unaryTests.contains w then some (.unary w)
  else if binaryTests.contains w then some (.binary w)
  else
    match w with
    | "!" => some .negation
    | "-a" => some .conjunction
    | "-o" => some .disjunction
    | "(" => some .opening
    | ")" => some .closing
    | _ => none

/-- How `test` takes a word where it stands. -/
inductive TestToken where
  /-- There are no more words. -/
  | done
  /-- A word taken as a string. -/
  | operand
  /-- A word taken as an operator. -/
  | op (o : TestOp)
  deriving DecidableEq, Repr

/-- Takes the word at place `i`. A word that spells an operator is one,
    except a unary operator that is last, or that is followed by a binary
    operator and more, and a `(` that is last: these are strings. -/
def testToken (ws : Array String) (i : Nat) : TestToken :=
  match ws[i]? with
  | none => .done
  | some w =>
    match testOp? w with
    | none => .operand
    | some o =>
      let isOperand := match o with
        | .unary _ =>
          match ws[i + 1]? with
          | none => true
          | some next =>
            ws[i + 2]?.isSome &&
              match testOp? next with
              | some (.binary _) => true
              | _ => false
        | .opening => ws[i + 1]?.isNone
        | _ => false
      if isOperand then .operand else .op o

mutual

/-- `expr := and-expr [-o expr]`, from the word pos `pos`, taken as `t`:
    the value and the place of the last word read. Both sides are
    evaluated, so an error on either side shows. -/
def testOr (sh : Environment) (terminal : Nat → Bool) (ws : Array String) :
    (fuel : Nat) → TestToken → (pos : Nat) → Except String (Bool × Nat)
  | 0, _, _ => .error "expression too deep"
  | fuel + 1, t, pos => do
    let (a, pos) ← testAnd sh terminal ws fuel t pos
    match testToken ws (pos + 1) with
    | .op .disjunction => do
      let (b, pos) ← testOr sh terminal ws fuel (testToken ws (pos + 2)) (pos + 2)
      pure (a || b, pos)
    | _ => pure (a, pos)

/-- `and-expr := not-expr [-a and-expr]`. -/
def testAnd (sh : Environment) (terminal : Nat → Bool) (ws : Array String) :
    (fuel : Nat) → TestToken → (pos : Nat) → Except String (Bool × Nat)
  | 0, _, _ => .error "expression too deep"
  | fuel + 1, t, pos => do
    let (a, pos) ← testNot sh terminal ws fuel t pos
    match testToken ws (pos + 1) with
    | .op .conjunction => do
      let (b, pos) ← testAnd sh terminal ws fuel (testToken ws (pos + 2)) (pos + 2)
      pure (a && b, pos)
    | _ => pure (a, pos)

/-- `not-expr := ! not-expr | primary`. -/
def testNot (sh : Environment) (terminal : Nat → Bool) (ws : Array String) :
    (fuel : Nat) → TestToken → (pos : Nat) → Except String (Bool × Nat)
  | 0, _, _ => .error "expression too deep"
  | fuel + 1, t, pos =>
    match t with
    | .op .negation => do
      let (a, pos) ← testNot sh terminal ws fuel (testToken ws (pos + 1)) (pos + 1)
      pure (!a, pos)
    | _ => testPrimary sh terminal ws fuel t pos

/-- A primary: nothing (false), a parenthesised expression, a unary test,
    a binary test when a binary operator follows, or else a string, true
    when it is not empty. -/
def testPrimary (sh : Environment) (terminal : Nat → Bool) (ws : Array String) :
    (fuel : Nat) → TestToken → (pos : Nat) → Except String (Bool × Nat)
  | 0, _, _ => .error "expression too deep"
  | fuel + 1, t, pos =>
    match t with
    | .done => pure (false, pos)
    | .op .opening =>
      match testToken ws (pos + 1) with
      | .op .closing => pure (false, pos + 1)
      | inner => do
        let (v, pos) ← testOr sh terminal ws fuel inner (pos + 1)
        match testToken ws (pos + 1) with
        | .op .closing => pure (v, pos + 1)
        | _ => throw "closing paren expected"
    | .op (.unary name) =>
      match ws[pos + 1]? with
      | none => throw (name ++ ": argument expected")
      | some a => do
        let v ← unaryTest sh terminal name a
        pure (v, pos + 1)
    | _ =>
      match ws[pos + 1]?.bind testOp? with
      | some (.binary name) =>
        match ws[pos + 2]? with
        | none => throw (name ++ ": argument expected")
        | some b => do
          let v ← binaryTest name (ws[pos]?.getD "") b
          pure (v, pos + 2)
      | _ => pure (!(ws[pos]?.getD "").isEmpty, pos)

end

/-- Evaluates the arguments of `test`; the error is the message. With three
    arguments and a binary operator in the middle, that is the test; with
    three or four, a `(` first and a `)` last are dropped, or else a `!`
    first negates what the rest gives, read again by its number. Words
    left over after the expression are an error that names the last word
    read. -/
def testExpr (sh : Environment) (terminal : Nat → Bool) (args : List String) : Except String Bool :=
  go false args args.length
where
  /-- Evaluates the words from the first, taken as `t`. -/
  evaluate (negated : Bool) (t : TestToken) (ws : Array String) : Except String Bool := do
    let (v, pos) ← testOr sh terminal ws (4 * ws.size + 4) t 0
    match ws[pos]?, ws[pos + 1]? with
    | some w, some _ => throw (w ++ ": unexpected operator")
    | _, _ => pure (v != negated)
  /-- Reads the arguments, negated or not, with `fuel` for the `!`s. -/
  go (negated : Bool) (args : List String) : Nat → Except String Bool
    | 0 => .ok false
    | fuel + 1 =>
      let ws := args.toArray
      let binaryMiddle := args.length = 3 &&
        match testOp? (args.getD 1 "") with
        | some (.binary _) => true
        | _ => false
      let reread := (args.length = 3 || args.length = 4) && !binaryMiddle
      if args.isEmpty then .ok false
      else if binaryMiddle then evaluate negated .operand ws
      else if reread && args.head? = some "(" && args.getLast? = some ")" then
        let inner := (args.drop 1).dropLast.toArray
        evaluate negated (testToken inner 0) inner
      else if reread && args.head? = some "!" then go true (args.drop 1) fuel
      else evaluate negated (testToken ws 0) ws

end ReplHost.Shell
