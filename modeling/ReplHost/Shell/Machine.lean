import ReplHost.Shell.Programs

/-! # Shell command language: running commands

  A `Machine` runs commands one small step at a time. It holds the command
  it is running (or that it has just finished one, or that it is leaving
  commands early for `break`, `continue`, `return` or `exit`) and a stack
  of frames: what is left of the commands around it. A step either starts
  the running command, or hands its status to the frame on top.

  Because the stack holds everything still to do, a shell whose `read`
  finds no line at the terminal simply stops, and goes on from there once
  a line is typed, wherever in loops, functions or conditionals the `read`
  stood.

  Pipelines, command substitutions and shells started as programs run in
  machines of their own, with their input given as bytes, to their end.
  Standard output and standard error go where the redirections in force
  send them: to the shell's own streams (one stream when both go to the
  terminal), to a file, or nowhere.

  A program that reads the terminal (`cat`, `head`, …) is run a line at a
  time in the same way, and waits between lines.

  The options `-e` (a failing command ends the shell), `-u` (an unset
  parameter is an error) and `-x` (each simple command is written to
  standard error first) are kept in the shell; `local` saves a variable in
  the innermost function call, which puts it back on return.

  Error messages name the shell and the line: `sh: 1: nosuch: not found`.
-/

namespace ReplHost.Shell

/-- Where standard input comes from. -/
inductive Input where
  /-- The terminal: the lines typed and not read yet. -/
  | terminal (lines : List (List UInt8))
  /-- A pipe or file with these bytes. -/
  | bytes (b : List UInt8)

/-- Where an output stream goes. -/
inductive Dest where
  /-- The machine's standard output. -/
  | stdout
  /-- The machine's standard error. -/
  | stderr
  /-- Nowhere. -/
  | null
  /-- The end of a file. -/
  | file (path : String)
  deriving DecidableEq, Repr

/-- Where standard output and standard error go. -/
structure Routes where
  out : Dest := .stdout
  err : Dest := .stderr
  deriving DecidableEq, Repr

/-- Why commands are left before their end. -/
inductive Leave where
  /-- `break n`. -/
  | brk (n : Nat)
  /-- `continue n`. -/
  | cont (n : Nat)
  /-- `return`. -/
  | ret
  /-- `exit`. -/
  | exit
  deriving DecidableEq, Repr

/-- What the machine does next. -/
inductive Control where
  /-- Start a command. -/
  | run (c : Cmd)
  /-- Read the next command of a script and run it. -/
  | source (ts : Tokens)
  /-- Hand the status of the command just finished to the frame on top. -/
  | done
  /-- Leave commands until a frame stops it. -/
  | leave (l : Leave)
  /-- A program reads the terminal line by line, writing through `rs`. -/
  | lines (p : LineProgram) (rs : Routes)

/-- A command part way through: what is left of it once the command running
    inside it has finished. -/
inductive Frame where
  /-- The commands after it in a sequence. -/
  | seq (rest : List Cmd)
  /-- A command of a script runs: the rest of the script. -/
  | script (rest : Tokens)
  /-- Text given to `eval` runs: the command named in messages before. -/
  | context (saved : Option String)
  /-- The rest of an `&&`/`||` list. -/
  | chain (rest : List (Conn × Cmd))
  /-- A pipeline negated by `!`. -/
  | negate
  /-- The test of an `if` runs: what runs after it. -/
  | branch (thenPart : Cmd) (elsePart : Option Cmd)
  /-- The test of a loop runs; `last` is the status of the body's last run. -/
  | loopTest (test body : Cmd) (untilLoop : Bool) (last : Nat)
  /-- The body of a loop runs. -/
  | loopBody (test body : Cmd) (untilLoop : Bool)
  /-- The body of a `for` runs: the values still to come. -/
  | forBody (var : String) (rest : List String) (body : Cmd)
  /-- A function runs: the positional parameters of its caller, and the
      values its `local` variables had before (`none`: unset). -/
  | call (args : List String) (cursor : OptCursor) (saved : List (String × Option String))
  /-- A subshell runs: the shell it was copied from. -/
  | subshell (saved : Environment)
  /-- Redirections hold: what held before them. -/
  | redirect (routes : Routes) (input : Option Input)
  /-- The shell exits after the command (`exec`). -/
  | exitAfter
  /-- The exit trap runs: the status the shell exits with. -/
  | keepStatus (status : Nat)
  /-- A builtin or a function runs with variables assigned for it alone:
      their values before (`none`: unset) and whether they were exported. -/
  | restore (saved : List (String × Option String × Bool))

/-- Bytes written so far, kept last byte first, so that writing more
    costs only what is written. -/
structure Written where
  /-- The bytes, last first. -/
  reversed : List UInt8 := []

/-- The bytes written, first first. -/
def Written.bytes (w : Written) : List UInt8 := w.reversed.reverse

/-- Writes more bytes after those written. -/
def Written.add (w : Written) (bs : List UInt8) : Written := ⟨bs.reverseAux w.reversed⟩

theorem Written.bytes_add (w : Written) (bs : List UInt8) : (w.add bs).bytes = w.bytes ++ bs := by
  simp [Written.add, Written.bytes, List.reverseAux_eq]

/-- A shell running commands. -/
structure Machine where
  /-- The shell's state. -/
  shell : Environment
  /-- What to do next. -/
  control : Control := .done
  /-- What is left to do, innermost first. -/
  stack : List Frame := []
  /-- Standard input. -/
  input : Input
  /-- Where output goes. -/
  routes : Routes := {}
  /-- Standard output written. -/
  out : Written := {}
  /-- Standard error written, unless `merged`. -/
  err : Written := {}
  /-- Whether standard error goes to standard output, as on a terminal. -/
  merged : Bool := false
  /-- Whether the prompt of a `read -p` waiting for its line was shown. -/
  prompted : Bool := false
  /-- Whether the prompt for the next command line was shown. -/
  lineRequested : Bool := false
  /-- How many command lines were read from the terminal. -/
  linesRead : Nat := 0
  /-- The lines of a command read so far that does not end yet. -/
  pending : String := ""
  /-- The signals caught and not handled yet by their traps, in
      increasing order. -/
  caught : List Nat := []
  /-- The signal that ended the shell, if one did. -/
  killedBy : Option Nat := none

/-- Why a machine stopped. -/
inductive Halt where
  /-- Nothing is left to run. -/
  | finished
  /-- A `read` waits for a line typed at the terminal. -/
  | waiting
  /-- It ran out of steps. -/
  | stopped
  deriving DecidableEq, Repr

/-- What a machine run to its end left: the shell, its two streams, and
    the signal that ended it, if one did. -/
structure Finished where
  shell : Environment
  out : List UInt8
  err : List UInt8
  killedBy : Option Nat := none

/-- Runs a command, or a script, to its end in a machine of its own, in a
    given shell and with given input. -/
abbrev Runner := Environment → Input → Control → Finished

/-- What a step came to: the machine, and why it stopped if it did. -/
abbrev Stepped := Machine × Option Halt

namespace Machine

/-! ### Output -/

/-- Writes bytes to a destination. -/
def emitTo (m : Machine) (d : Dest) (bytes : List UInt8) : Machine :=
  if bytes.isEmpty then m
  else
    match d with
    | .stdout => { m with out := m.out.add bytes }
    | .stderr => if m.merged then { m with out := m.out.add bytes } else { m with err := m.err.add bytes }
    | .null => m
    | .file p =>
      let fs := m.shell.fs
      { m with shell := { m.shell with fs := fs.withFile p ((fs.file? p).getD [] ++ bytes) } }

/-- Writes what a command printed, through given routes: its messages
    first, as they are written at once while output waits in a buffer. -/
def emit (m : Machine) (rs : Routes) (r : Result) : Machine :=
  (m.emitTo rs.err r.err).emitTo rs.out r.out

/-- Writes what a program printed. When both of its streams reach the
    terminal they show as the program wrote them (`shown`): its output a
    line at a time, its messages at once. -/
def emitProgram (m : Machine) (rs : Routes) (r : Result) : Machine :=
  match r.shown with
  | some bytes =>
    if m.merged && rs.out = .stdout && (rs.err = .stderr || rs.err = .stdout) then
      m.emitTo .stdout bytes
    else m.emit rs r
  | none => m.emit rs r

/-- Whether a file descriptor is the terminal: standard input when it is
    read from the terminal, and an output stream that reaches the terminal
    of a shell running at one. -/
def isTerminal (m : Machine) (rs : Routes) (input : Input) (fd : Nat) : Bool :=
  match fd with
  | 0 =>
    match input with
    | .terminal _ => true
    | .bytes _ => false
  | 1 => m.merged && (rs.out = .stdout || rs.out = .stderr)
  | 2 => m.merged && (rs.err = .stdout || rs.err = .stderr)
  | _ => false

/-- Writes an error message of the shell. -/
def complain (m : Machine) (rs : Routes) (line : Nat) (msg : String) : Machine :=
  m.emitTo rs.err (m.shell.complain line msg)

/-! ### Finishing commands -/

/-- Whether a failing command is tested here, so that `set -e` lets it
    fail: in the test of `if` or a loop, under `!`, or before the end of an
    `&&`/`||` list. -/
def tested (m : Machine) : Bool :=
  m.stack.any fun f =>
    match f with
    | .negate | .branch _ _ | .loopTest _ _ _ _ | .chain _ => true
    | _ => false

/-- Ends a command with a status; under `set -e` a failure outside a test
    ends the shell. -/
def finish (m : Machine) (status : Nat) : Stepped :=
  let m := { m with shell := { m.shell with status := status } }
  if status ≠ 0 && m.shell.errexit && !m.tested then ({ m with control := .leave .exit }, none)
  else ({ m with control := .done }, none)

/-- Ends a command with a shell error: the message, status 2, and the end
    of a shell that does not read commands from the terminal. -/
def fail (m : Machine) (rs : Routes) (line : Nat) (msg : String) : Stepped :=
  let m := m.complain rs line msg
  let m := { m with shell := { m.shell with status := 2 } }
  if m.shell.interactive then ({ m with control := .done }, none)
  else ({ m with control := .leave .exit }, none)

/-- Moves on to a command, with frames pushed. -/
def enter (m : Machine) (fs : List Frame) (c : Cmd) : Stepped :=
  ({ m with control := .run c, stack := fs ++ m.stack }, none)

/-! ### Signals -/

/-- Adds a signal to those caught, keeping them in order, each once. -/
def catchOne (caught : List Nat) (n : Nat) : List Nat :=
  if caught.contains n then caught else caught.filter (· < n) ++ [n] ++ caught.filter (n < ·)

/-- A shell reading its commands from the terminal after the interrupt
    signal: it abandons the command it runs and the lines of a command
    begun, writes a line break, and waits for a new command, with status
    130. -/
def interrupted (m : Machine) : Machine :=
  let m := m.emitTo .stderr [0x0A]
  { m with control := .done, stack := [], routes := {}, pending := "", lineRequested := false,
           prompted := false, shell := { m.shell with status := 130 } }

/-- The shell receives a signal it sent itself. Signal 0 does nothing. A
    trap that runs commands catches the signal, to run them once the
    running command is done; a trap that ignores it, a signal ignored by
    default and one that would stop the shell do nothing; any other signal
    ends the shell. `KILL` and `STOP` cannot be trapped. A shell reading
    its commands from the terminal ignores `TERM` and `QUIT`, and abandons
    what it runs on an interrupt. Also returns whether the shell stopped
    what it was running. -/
def receive (m : Machine) (n : Nat) : Machine × Bool :=
  let trap := if n = 9 || n = 19 then none else m.shell.trapOf n
  if n = 0 then (m, false)
  else
    match trap with
    | some action => if action.isEmpty then (m, false) else ({ m with caught := catchOne m.caught n }, false)
    | none =>
      if m.shell.interactive && (n = 3 || n = 15) then (m, false)
      else if m.shell.interactive && n = 2 then (m.interrupted, true)
      else if defaultEffect n = .ends then ({ m with killedBy := some n, control := .done, stack := [] }, true)
      else (m, false)

/-- A signal typed at the terminal that a trap catches, in a shell that
    does not read its commands from the terminal: a program reading the
    terminal ends by it, the shell telling so unless it is an interrupt,
    and a `read` waiting for a line gives up (see `readLine`). -/
def catchTyped (m : Machine) (n : Nat) : Machine :=
  let m := { m with caught := catchOne m.caught n }
  match m.control with
  | .lines _ _ => ((m.emitTo .stderr (bytesOf (deathNotice n))).finish (128 + n)).1
  | _ => m

/-- Sends a signal to the targets of `kill` in turn: the shell itself is
    process 0, its own number and its process group; no other process is
    found. The status is 1 when some target was not found, 2 when one
    could not be read. -/
def sendSignal (m : Machine) (rs : Routes) (line : Nat) (n : Nat) (failed : Bool) :
    List String → Stepped
  | [] => m.finish (if failed then 1 else 0)
  | t :: rest =>
    match killTarget t with
    | .error msg => (m.complain rs line ("kill: " ++ msg)).finish 2
    | .ok pid =>
      if pid = 0 || pid = (m.shell.pid : Int) || pid = -(m.shell.pid : Int) then
        match m.receive n with
        | (m, true) => (m, none)
        | (m, false) => m.sendSignal rs line n failed rest
      else (m.complain rs line "kill: No such process\n").sendSignal rs line n true rest

/-! ### Expansion -/

/-- The expander of the machine's shell for a command on line `line`;
    command substitutions run in a copy of it, their lines counted from
    that line. -/
def expander (run : Runner) (m : Machine) (line : Nat) : Expander :=
  let sh := m.shell
  { scope := sh.scope, homeOf := sh.homeOf, nounset := sh.nounset,
    run := fun src =>
      match parse src sh.aliases line with
      | .error (l, msg) => { out := "", err := sh.complain l msg, status := 2 }
      | .ok cmd =>
        let f := run { sh.childShell with interactive := false } (.bytes []) (.run cmd)
        { out := textOf f.out, err := f.err, status := f.shell.status } }

/-- Takes in the effects of an expansion: assignments and errors. -/
def absorb (m : Machine) (e : Expansion) : Machine :=
  let m := { m with shell := e.assigned.foldl (fun sh (n, v) => sh.setVar n v) m.shell }
  m.emitTo m.routes.err e.err

/-! ### Redirections -/

/-- Where a redirection to the file named `target` goes, and the shell
    with the file created; the error is the message. -/
def openOutput (sh : Environment) (target : String) (append : Bool) : Except String (Environment × Dest) :=
  match target with
  | "/dev/null" => .ok (sh, .null)
  | "/dev/stdout" | "/dev/tty" => .ok (sh, .stdout)
  | "/dev/stderr" => .ok (sh, .stderr)
  | _ =>
    match sh.locate target with
    | .error (.os 20) => .error ("cannot create " ++ target ++ ": Not a directory")
    | .error _ => .error ("cannot create " ++ target ++ ": Directory nonexistent")
    | .ok p =>
      if sh.fs.isDir p then .error ("cannot create " ++ target ++ ": Is a directory")
      else
        let old := (sh.fs.file? p).getD []
        .ok ({ sh with fs := sh.fs.withFile p (if append then old else []) }, .file p)

/-- Applies redirections in order to routes and input; the error is the
    message. -/
def redirections (x : Expander) (sh : Environment) (e : Expansion) (rs : Routes) (input : Option Input) :
    List Redirect → Except String (Environment × Expansion × Routes × Option Input)
  | [] => .ok (sh, e, rs, input)
  | r :: more =>
    let setFd := fun (rs : Routes) (fd : Nat) (d : Dest) =>
      if fd = 1 then { rs with out := d } else if fd = 2 then { rs with err := d } else rs
    let fdDest := fun (rs : Routes) (n : Nat) =>
      if n = 1 then some rs.out else if n = 2 then some rs.err else none
    match r.op, r.target with
    | ">&", .fd n =>
      match fdDest rs n with
      | some d => redirections x sh e (setFd rs r.fd d) input more
      | none => .error (Decimal.render n ++ ": Bad file descriptor")
    | "<&", _ => redirections x sh e rs input more
    | _, .here w =>
      let (text, e) := x.text e w
      redirections x sh e rs (some (.bytes (bytesOf text))) more
    | "<", .file w =>
      let (target, e) := x.text e w
      if target = "/dev/null" then redirections x sh e rs (some (.bytes [])) more
      else
        match sh.readFile target with
        | .ok bytes => redirections x sh e rs (some (.bytes bytes)) more
        | .error _ => .error ("cannot open " ++ target ++ ": No such file")
    | op, .file w =>
      let (target, e) := x.text e w
      if op = ">&" && target = "-" then redirections x sh e (setFd rs r.fd .null) input more
      else
        match openOutput sh target (op = ">>") with
        | .ok (sh, d) => redirections x sh e (setFd rs r.fd d) input more
        | .error msg => .error msg
    | _, _ => redirections x sh e rs input more

/-! ### `read` -/

/-- The characters of a line read without `-r`: a backslash is dropped and
    the character after it kept, with no power to separate fields. -/
def escapedChars : List Char → List (Char × Bool)
  | [] => []
  | '\\' :: c :: rest => (c, false) :: escapedChars rest
  | ['\\'] => []
  | c :: rest => (c, true) :: escapedChars rest

/-- Reads a line from the pieces typed at the terminal, after the bytes
    `acc` read so far: the bytes up to a line feed (`true`), or up to an end
    of input typed at the start of a line (`false`), with the pieces left;
    `none` while neither has been typed. A piece ended by `^D` elsewhere
    only hands over what was typed before it. -/
def terminalLine (acc : List UInt8) : List (List UInt8) → Option (List UInt8 × Bool × List (List UInt8))
  | [] => none
  | [] :: rest => some (acc, false, rest)
  | p :: rest =>
    if p.getLast? = some 0x0A then some (acc ++ p.dropLast, true, rest)
    else terminalLine (acc ++ p) rest

/-- The next line of an input: the line without its line break, whether it
    had one, and the input left; `none` at the end of the input. -/
def nextLine : Input → Option (List UInt8 × Bool × Input)
  | .terminal ps => (terminalLine [] ps).map fun (l, complete, rest) => (l, complete, .terminal rest)
  | .bytes [] => none
  | .bytes b =>
    let line := b.takeWhile (· ≠ 0x0A)
    let rest := b.dropWhile (· ≠ 0x0A)
    match rest with
    | _ :: after => some (line, true, .bytes after)
    | [] => some (line, false, .bytes [])

/-- Whether an input is the terminal with no line typed yet. -/
def waitsFor : Input → Bool
  | .terminal ps => (terminalLine [] ps).isNone
  | _ => false

/-! ### Simple commands -/

/-- How many loops enclose the running command, up to a function or a
    subshell. -/
def loopDepth : List Frame → Nat
  | [] => 0
  | .loopTest _ _ _ _ :: rest | .loopBody _ _ _ :: rest | .forBody _ _ _ :: rest => loopDepth rest + 1
  | .call _ _ _ :: _ | .subshell _ :: _ => 0
  | _ :: rest => loopDepth rest

/-- Puts back the variables a function made local. -/
def restoreLocals (sh : Environment) (saved : List (String × Option String)) : Environment :=
  saved.foldl (fun sh (n, v) =>
    match v with
    | some v => sh.setVar n v
    | none => sh.unsetVar n) sh

/-- Assigns variables for one command and exports them; also returns what
    they were before, once for each name, to put back afterwards. -/
def assignFor (sh : Environment) (assigns : List (String × String)) :
    Environment × List (String × Option String × Bool) :=
  assigns.foldl (fun (acc : Environment × List (String × Option String × Bool)) (n, v) =>
    let (s, saved) := acc
    let saved := if saved.any (·.1 = n) then saved
      else saved ++ [(n, s.vars.lookup n, s.exported.contains n)]
    ((s.setVar n v).exportVar n, saved)) (sh, [])

/-- Puts back the variables assigned for one command. -/
def restoreAssigned (sh : Environment) (saved : List (String × Option String × Bool)) : Environment :=
  saved.foldl (fun sh (n, v, exported) =>
    let sh := match v with
      | some v => sh.setVar n v
      | none => sh.unsetVar n
    if exported then sh.exportVar n else { sh with exported := sh.exported.filter (· ≠ n) }) sh

/-- Records the value of a variable in the innermost function call before
    `local` changes it; `none` outside any function. -/
def recordLocal (sh : Environment) (n : String) : List Frame → Option (List Frame)
  | [] => none
  | .call args cursor saved :: rest =>
    let saved := if saved.any (·.1 = n) then saved else saved ++ [(n, sh.vars.lookup n)]
    some (.call args cursor saved :: rest)
  | f :: rest => (recordLocal sh n rest).map (f :: ·)

/-- The names the shell runs itself. -/
def builtins : List String :=
  ["exit", "return", "break", "continue", "read", "cd", "pwd", "export", "readonly", "local", "unset",
   "echo", "printf", "true", "false", ":", "test", "[", "set", "shift", "eval", "exec", "trap",
   "wait", "umask", "command", "type", "hash", "kill", "times", "getopts", "alias", "unalias"]

/-- The builtins that are special: errors in them end a script, and
    `type` calls them so. -/
def specialBuiltins : List String :=
  [".", ":", "break", "continue", "eval", "exec", "exit", "export", "readonly", "local", "return",
   "set", "shift", "times", "trap", "unset"]

/-- What `type` (`verbose`) or `command -v` described about a name, the status,
    and the shell afterwards (a program found on the search path is
    remembered): a reserved word, a program remembered before, a function,
    a builtin, a program on the search path, or nothing. -/
def describeCommand (sh : Environment) (verbose : Bool) (name : String) : String × Nat × Environment :=
  let described := fun (long short : String) => (if verbose then name ++ long else short) ++ "\n"
  if reservedWords.contains name then (described " is a shell keyword" name, 0, sh)
  else if let some v := sh.aliases.lookup name then
    (if verbose then name ++ " is an alias for " ++ v ++ "\n" else "alias " ++ aliasLine (name, v), 0, sh)
  else if name.contains '/' then
    match sh.locate name with
    | .ok _ => (described (" is " ++ name) name, 0, sh)
    | .error _ => (if verbose then name ++ ": not found\n" else "", 127, sh)
  else
    match sh.remembered.lookup name with
    | some p => (described (" is a tracked alias for " ++ p) p, 0, sh)
    | none =>
      if (sh.functions.lookup name).isSome then (described " is a shell function" name, 0, sh)
      else if specialBuiltins.contains name then (described " is a special shell builtin" name, 0, sh)
      else if builtins.contains name then (described " is a shell builtin" name, 0, sh)
      else
        match sh.findProgramOnPath name with
        | some p => (described (" is " ++ p) p, 0, sh.remember name p)
        | none => (if verbose then name ++ ": not found\n" else "", 127, sh)

/-- Reads the options of `command`: whether `-v` or `-V` asked to describe
    the name rather than run it, and whether verbosely. -/
def commandOptions : List String → Option Bool × List String
  | a :: rest =>
    if a = "--" then (none, rest)
    else if a.length > 1 && a.startsWith "-" && (a.toList.drop 1).all ("pvV".contains ·) then
      let (v, more) := commandOptions rest
      let here : Option Bool :=
        if a.contains 'V' then some true else if a.contains 'v' then some false else none
      let merged := match here, v with
        | some true, _ | _, some true => some true
        | some false, _ | _, some false => some false
        | none, none => none
      (merged, more)
    else (none, a :: rest)
  | [] => (none, [])

/-- The options of `command` leave no more words than they were given. -/
theorem commandOptions_length (args : List String) :
    (commandOptions args).2.length ≤ args.length := by
  induction args with
  | nil => simp [commandOptions]
  | cons a rest ih =>
    simp only [commandOptions]
    split
    · simp
    · split
      · simp only [List.length_cons]; omega
      · simp

/-- The command that `command` runs after its options comes with fewer
    words than `command` was given. -/
theorem commandOptions_shorter {args more : List String} {v : Option Bool} {n : String}
    (h : commandOptions args = (v, n :: more)) : more.length < args.length := by
  have hl := commandOptions_length args
  rw [h] at hl
  simp only [List.length_cons] at hl
  omega

/-- Options of a shell started as a program: the option letters given
    (`-c` among them described the first operand is the script), then the
    operands. -/
def shellOptions : List String → List Char × List String
  | a :: rest =>
    if a.startsWith "-" && a.length > 1 && a ≠ "--" then
      let (letters, ops) := shellOptions rest
      ((a.drop 1).toString.toList ++ letters, ops)
    else if a = "--" then ([], rest)
    else ([], a :: rest)
  | [] => ([], [])

/-- Runs a shell started as a program, to its end: the shell, its output,
    errors and status. -/
def runShellProgram (run : Runner) (sh : Environment) (env : List (String × String)) (name : String)
    (args : List String) (stdin : List UInt8) : Environment × Result :=
  let (letters, operands) := shellOptions args
  let command := letters.contains 'c'
  let fresh : Environment :=
    ({ vars := env, exported := env.map Prod.fst, cwd := sh.cwd, fs := sh.fs, size := sh.size,
       arg0 := name, mask := sh.mask } : Environment).withStartVariables.setOptions letters true
  let script : Except Result (String × Environment × Input) :=
    if command then
      match operands with
      | src :: more => .ok (src, { fresh with arg0 := more.headD name, args := more.drop 1 }, .bytes stdin)
      | [] => .error { err := bytesOf (name ++ ": 0: -c requires an argument\n"), status := 2 }
    else
      match operands with
      | file :: more =>
        match sh.readFile file with
        | .ok bytes => .ok (textOf bytes, { fresh with arg0 := file, args := more }, .bytes stdin)
        | .error _ => .error { err := bytesOf (name ++ ": 0: cannot open " ++ file ++ ": No such file\n"), status := 2 }
      | [] => .ok (textOf stdin, fresh, .bytes [])
  match script with
  | .error r => (sh, r)
  | .ok (src, inner, input) =>
    let f := run inner input (.source (Tokens.ofScript src [] 1))
    let notice := match f.killedBy with
      | some n => bytesOf (deathNotice n)
      | none => []
    ({ sh with fs := f.shell.fs }, { out := f.out, err := f.err ++ notice, status := f.shell.status })

/-- Runs `read`: waits when the terminal has no line. `own` tells whether
    the input is the machine's, so that the line read is gone from it. The
    prompt of `-p` is shown only when the input is the terminal. -/
def readLine (m : Machine) (rs : Routes) (lineNo : Nat) (input : Input) (own : Bool) (args : List String) :
    Stepped :=
  let rec opts (raw : Bool) (prompt : Option String) : List String → Bool × Option String × List String
    | "-r" :: more => opts true prompt more
    | "-p" :: p :: more => opts raw (some p) more
    | more => (raw, prompt, more)
  let (raw, prompt, names) := opts false none args
  let names := if names.isEmpty then ["REPLY"] else names
  let atTerminal := match input with
    | .terminal _ => true
    | .bytes _ => false
  let m := match prompt with
    | some p => if m.prompted || !atTerminal then m else m.emitTo rs.err (bytesOf p)
    | none => m
  if waitsFor input then
    if m.caught.isEmpty then ({ m with prompted := true }, some .waiting)
    else
      let m := { m with prompted := false, shell := names.foldl (fun (s : Environment) n => s.setVar n "") m.shell }
      m.finish 1
  else
    let m := { m with prompted := false }
    let seps := m.shell.scope.separators
    match nextLine input with
    | none =>
      let m := { m with shell := names.foldl (fun (s : Environment) n => s.setVar n "") m.shell }
      m.finish 1
    | some (line, complete, rest) =>
      let cs := (textOf (line.filter (· ≠ 0))).toList
      let items := if raw then cs.map (·, true) else escapedChars cs
      let values := readFields seps names.length items
      let assigned := (names.zip values).takeWhile (!m.shell.isReadonly ·.1)
      let sh := assigned.foldl (fun (s : Environment) (n, v) => s.setVar n v) m.shell
      let m := { m with shell := sh, input := if own then rest else m.input }
      match names.find? m.shell.isReadonly with
      | some n => (m.complain rs lineNo ("read: " ++ readonlyMessage n)).finish 2
      | none => m.finish (if complete then 0 else 1)

/-- Runs text as commands of the shell (`eval`), one line after another,
    with messages naming `eval`; without commands the status is 0. -/
def evalText (m : Machine) (args : List String) : Stepped :=
  let ts := (Tokens.ofScript (" ".intercalate args) m.shell.aliases 1).skipBreaks
  if ts.rest.isEmpty then m.finish 0
  else
    ({ m with control := .source ts, stack := .context m.shell.context :: m.stack,
               shell := { m.shell with context := some "eval" } }, none)

/-- Runs a builtin; `none` when the name is not one. -/
def builtin (m : Machine) (rs : Routes) (input : Input) (own : Bool) (c : Command)
    (name : String) (args : List String) : Option Stepped :=
  let sh := m.shell
  let ok := fun (m : Machine) (r : Result) => (m.emit rs r).finish r.status
  match name with
  | "exit" =>
    match args with
    | [] => some ({ m with control := .leave .exit }, none)
    | a :: _ =>
      match countArg a with
      | some n => some ({ m with shell := { sh with status := n % 256 }, control := .leave .exit }, none)
      | none => some (m.fail rs c.line ("exit: Illegal number: " ++ a))
  | "return" =>
    match args with
    | [] => some ({ m with control := .leave .ret }, none)
    | a :: _ =>
      match countArg a with
      | some n => some ({ m with shell := { sh with status := n % 256 }, control := .leave .ret }, none)
      | none => some (m.fail rs c.line ("return: Illegal number: " ++ a))
  | "break" | "continue" =>
    let n := match args with
      | a :: _ => countArg a
      | [] => some 1
    match n with
    | none | some 0 => some (m.fail rs c.line (name ++ ": Illegal number: " ++ args.headD ""))
    | some n =>
      let n := min n (loopDepth m.stack)
      let m := { m with shell := { sh with status := 0 } }
      if n = 0 then some ({ m with control := .done }, none)
      else some ({ m with control := .leave (if name = "break" then .brk n else .cont n) }, none)
  | "read" => some (m.readLine rs c.line input own args)
  | "exec" =>
    match args with
    | [] => some ({ m with routes := rs, input := input, control := .done, shell := { sh with status := 0 } }, none)
    | n :: more =>
      let words := (n :: more).map fun a => [Piece.quoted a]
      let m := { m with shell := { sh with context := some "exec" } }
      some (m.enter [.exitAfter] (.simple { c with words := words, assigns := [], redirects := [] }))
  | "cd" =>
    let target := match args with
      | "-" :: _ => (sh.vars.lookup "OLDPWD").getD sh.cwd
      | a :: _ => a
      | [] => sh.home
    match sh.locate target with
    | .ok p =>
      if sh.fs.isDir p then
        let old := sh.cwd
        let p := rawText p
        let sh := ((sh.setVar "OLDPWD" old).exportVar "OLDPWD").setVar "PWD" p
        let m := { m with shell := { (sh.exportVar "PWD") with cwd := p } }
        some (ok m (if args.head? = some "-" then { out := bytesOf (p ++ "\n") } else {}))
      else some ((m.complain rs c.line ("cd: can't cd to " ++ target)).finish 2)
    | .error _ => some ((m.complain rs c.line ("cd: can't cd to " ++ target)).finish 2)
  | "pwd" => some (ok m { out := bytesOf (sh.cwd ++ "\n") })
  | "local" =>
    let names := args.map fun a => (splitAssignment a).1
    match names.foldl (fun (acc : Option (List Frame)) n => acc.bind (recordLocal sh n)) (some m.stack) with
    | none => some ((m.complain rs c.line "local: not in a function").finish 2)
    | some stack =>
      let bad := args.findSome? fun a =>
        match splitAssignment a with
        | (n, none) => if isName n then none else some ("local: " ++ n ++ ": bad variable name")
        | (n, some _) => if sh.isReadonly n then some ("local: " ++ readonlyMessage n) else none
      match bad with
      | some msg => some (m.fail rs c.line msg)
      | none =>
        let sh := args.foldl (fun s a =>
          match splitAssignment a with
          | (n, some v) => s.setVar n v
          | _ => s) sh
        some (ok { m with shell := sh, stack := stack } {})
  | "export" | "readonly" =>
    match builtinOptions ['p'] args with
    | .error bad => some (m.fail rs c.line (name ++ ": " ++ illegalOption bad))
    | .ok (letters, operands) =>
      if letters.contains 'p' || operands.isEmpty then
        let names := (if name = "export" then sh.exported else sh.readonly).mergeSort (· ≤ ·)
        let line := fun (k : String) =>
          name ++ " " ++ k ++ ((sh.vars.lookup k).map (fun v => "=" ++ quoteValue v)).getD "" ++ "\n"
        some (ok m { out := bytesOf (String.join (names.map line)) })
      else
        let mark := if name = "export" then Environment.exportVar else Environment.markReadonly
        match sh.markVariables mark name operands with
        | (sh, none) => some (ok { m with shell := sh } {})
        | (sh, some msg) => some ({ m with shell := sh }.fail rs c.line msg)
  | "unset" =>
    match builtinOptions ['f', 'v'] args with
    | .error bad => some (m.fail rs c.line ("unset: " ++ illegalOption bad))
    | .ok (letters, names) =>
      if letters.getLast? = some 'f' then
        some (ok { m with shell := { sh with functions := sh.functions.filter fun (k, _) => !names.contains k } } {})
      else
        match sh.unsetVariables names with
        | (sh, none) => some (ok { m with shell := sh } {})
        | (sh, some msg) => some ({ m with shell := sh }.fail rs c.line msg)
  | "echo" => some (ok m (shellEcho args))
  | "printf" =>
    match args with
    | f :: rest =>
      some (ok m (printf (fun msg => textOf (sh.complain c.line ("printf: " ++ msg))) f rest))
    | [] => some ((m.complain rs c.line "printf: usage: printf format [arg ...]").finish 2)
  | "true" | ":" | "wait" => some (m.finish 0)
  | "false" => some (m.finish 1)
  | "umask" =>
    match builtinOptions ['S'] args with
    | .error bad => some ((m.complain rs c.line ("umask: " ++ illegalOption bad)).finish 2)
    | .ok (letters, operands) =>
      match operands with
      | [] =>
        let shown := if letters.contains 'S' then symbolicMask sh.mask else octalText 4 sh.mask
        some (ok m { out := bytesOf (shown ++ "\n") })
      | a :: _ =>
        match readMask sh.mask a with
        | .ok mask => some (ok { m with shell := { sh with mask } } {})
        | .error msg => some ((m.complain rs c.line ("umask: " ++ msg)).finish 2)
  | "test" | "[" =>
    let targs := if name = "[" then args.dropLast else args
    if name = "[" && args.getLast? ≠ some "]" then
      some ((m.complain rs c.line "[: missing ]").finish 2)
    else
      match testExpr sh (m.isTerminal rs input) targs with
      | .ok v => some (m.finish (if v then 0 else 1))
      | .error msg => some ((m.complain rs c.line (name ++ ": " ++ msg)).finish 2)
  | "set" =>
    let rec opts (s : Environment) : List String → Environment × Option (List String)
      | "--" :: rest => (s, some rest)
      | a :: rest =>
        if a.startsWith "-" && a.length > 1 then opts (s.setOptions (a.drop 1).toString.toList true) rest
        else if a.startsWith "+" && a.length > 1 then opts (s.setOptions (a.drop 1).toString.toList false) rest
        else (s, some (a :: rest))
      | [] => (s, none)
    if args.isEmpty then
      let shown := sh.vars.mergeSort (fun a b => a.1 ≤ b.1)
      some (ok m { out := bytesOf (String.join (shown.map fun (k, v) => k ++ "=" ++ quoteValue v ++ "\n")) })
    else
      let (s, positional) := opts sh args
      let s := match positional with
        | some ps => { s with args := ps }
        | none => s
      some (ok { m with shell := s } {})
  | "shift" =>
    let n := match args with
      | a :: _ => countArg a
      | [] => some 1
    match n with
    | none => some (m.fail rs c.line ("shift: Illegal number: " ++ args.headD ""))
    | some n =>
      if n > sh.args.length then some (m.fail rs c.line "shift: can't shift that many")
      else some (ok { m with shell := { sh with args := sh.args.drop n } } {})
  | "eval" => some (m.evalText args)
  | "alias" =>
    if args.isEmpty then some (ok m { out := bytesOf (String.join (sh.aliasesInTable.map aliasLine)) })
    else
      let shown := fun (m : Machine) (a : String) =>
        match m.shell.aliases.lookup a with
        | some v => (m.emitTo rs.out (bytesOf (aliasLine (a, v))), false)
        | none => (m.emitTo rs.err (bytesOf ("alias: " ++ a ++ " not found\n")), true)
      let (m, failed) := args.foldl (fun (acc : Machine × Bool) a =>
        let (m, failed) := acc
        match a.toList with
        | first :: more =>
          match more.span (· ≠ '=') with
          | (n, '=' :: v) =>
            ({ m with shell := m.shell.setAlias (String.ofList (first :: n)) (String.ofList v) }, failed)
          | _ =>
            let (m, missing) := shown m a
            (m, failed || missing)
        | [] =>
          let (m, missing) := shown m a
          (m, failed || missing)) (m, false)
      some (m.finish (if failed then 1 else 0))
  | "unalias" =>
    match builtinOptions ['a'] args with
    | .error bad => some ((m.complain rs c.line ("unalias: " ++ illegalOption bad)).finish 2)
    | .ok (letters, names) =>
      if letters.contains 'a' then some (ok { m with shell := { sh with aliases := [] } } {})
      else
        let (m, failed) := names.foldl (fun (acc : Machine × Bool) n =>
          let (m, failed) := acc
          if m.shell.aliases.any (·.1 = n) then
            ({ m with shell := { m.shell with aliases := m.shell.aliases.filter (·.1 ≠ n) } }, failed)
          else (m.emitTo rs.err (bytesOf ("unalias: " ++ n ++ " not found\n")), true)) (m, false)
        some (m.finish (if failed then 1 else 0))
  | "trap" =>
    match trapRequest args with
    | .error msg => some (m.fail rs c.line ("trap: " ++ msg))
    | .ok .list => some (ok m { out := bytesOf (String.join (sh.traps.map fun (n, a) => trapLine n a)) })
    | .ok (.set action names) =>
      match sh.setTraps action names with
      | (sh, none) => some (ok { m with shell := sh } {})
      | (sh, some bad) =>
        some (ok { m with shell := sh } { err := bytesOf ("trap: " ++ bad ++ ": bad trap\n"), status := 1 })
  | "kill" =>
    match killRequest args with
    | .error msg => some ((m.complain rs c.line ("kill: " ++ msg)).finish 2)
    | .ok .listAll => some (ok m { out := bytesOf signalList })
    | .ok (.nameOf a) =>
      match exitSignalName a with
      | .ok name => some (ok m { out := bytesOf (name ++ "\n") })
      | .error msg => some ((m.complain rs c.line ("kill: " ++ msg)).finish 2)
    | .ok (.send n targets) => some (m.sendSignal rs c.line n false targets)
  | "getopts" =>
    match args with
    | spec :: var :: given =>
      let words := if given.isEmpty then sh.args else given
      let found := getoptsStep spec words.toArray (sh.cursor.within words.length)
      let sh := match found.optarg with
        | none => sh
        | some none => sh.unsetVar "OPTARG"
        | some (some v) => sh.setVar "OPTARG" v
      let sh := (sh.setVar "OPTIND" (Decimal.render found.cursor.index)).setVar var (String.singleton found.letter)
      let err := (found.message.map fun msg => bytesOf (msg ++ "\n")).getD []
      some (ok { m with shell := { sh with cursor := found.cursor } } { err := err, status := if found.done then 1 else 0 })
    | _ => some ((m.complain rs c.line "getopts: Usage: getopts optstring var [arg...]").finish 2)
  | "times" => some (ok m { out := bytesOf "0m0.000000s 0m0.000000s\n0m0.000000s 0m0.000000s\n" })
  | "type" =>
    let (text, status, sh) := args.foldl (fun (acc : String × Nat × Environment) n =>
      let (t, st, sh) := describeCommand acc.2.2 true n
      (acc.1 ++ t, max acc.2.1 st, sh)) ("", 0, sh)
    some (ok { m with shell := sh } { out := bytesOf text, status := status })
  | "hash" =>
    match args with
    | "-r" :: _ => some (ok { m with shell := { sh with remembered := [] } } {})
    | [] =>
      some (ok m { out := bytesOf (String.join (sh.rememberedInTable.map (·.2 ++ "\n"))) })
    | names =>
      let (m, failed) := names.foldl (fun (acc : Machine × Bool) n =>
        let (m, failed) := acc
        let sh := { m.shell with remembered := m.shell.remembered.filter (·.1 ≠ n) }
        if n.contains '/' || (sh.functions.lookup n).isSome || builtins.contains n ||
            specialBuiltins.contains n then ({ m with shell := sh }, failed)
        else
          match sh.findProgramOnPath n with
          | some p => ({ m with shell := sh.remember n p }, failed)
          | none => (m.complain rs c.line ("hash: " ++ n ++ ": not found"), true)) (m, false)
      some (m.finish (if failed then 1 else 0))
  | _ => none

/-- Runs a builtin, whose messages name the builtin itself rather than
    the command whose text runs it; `eval` names itself for the commands
    it runs, and `exec` for the one it runs. -/
def builtinAlone (m : Machine) (rs : Routes) (input : Input) (own : Bool) (c : Command)
    (name : String) (args : List String) : Option Stepped :=
  let outer := m.shell.context
  let inner := if name = "eval" then m else { m with shell := { m.shell with context := none } }
  (inner.builtin rs input own c name args).map fun (m', halt) =>
    if m'.shell.context.isSome then (m', halt)
    else ({ m' with shell := { m'.shell with context := outer } }, halt)

/-- Runs a builtin or a program by name; `command` runs the one it names
    the same way. -/
def runNamed (run : Runner) (m : Machine) (rs : Routes) (input : Input) (own : Bool) (c : Command)
    (assigns : List (String × String)) (name : String) (args : List String) : Stepped :=
    match m.builtinAlone rs input own c name args with
    | some r => r
    | none =>
      let sh := m.shell
      if name = "command" then
        match h : commandOptions args with
        | (some verbose, n :: _) =>
          let (text, status, sh) := describeCommand sh verbose n
          ({ m with shell := sh }.emit rs { out := bytesOf text }).finish status
        | (some _, []) => m.finish 0
        | (none, n :: more) =>
          have : more.length < args.length := commandOptions_shorter h
          runNamed run m rs input own c assigns n more
        | (none, []) => m.finish 0
      else
        let stdin := match input with
          | .bytes b => b
          | .terminal _ => []
        let env := (assigns.foldl (fun s (n, v) => (s.setVar n v).exportVar n) sh).programEnvironment
        match sh.findProgram name with
        | none => (m.complain rs c.line (name ++ ": not found")).finish 127
        | some path =>
          let sh := if name.contains '/' || assigns.any (·.1 = "PATH") then sh else sh.remember name path
          let m := { m with shell := sh }
          let base := baseName path
          if base = "sh" || base = "dash" || base = "bash" then
            let (sh', r) := runShellProgram run sh env name args stdin
            ({ m with shell := sh' }.emit rs r).finish r.status
          else if base = "stty" && (args = ["-echo"] || args = ["echo"]) then
            ({ m with shell := { sh with echo := args = ["echo"] } }).finish 0
          else
            match input, (if own then lineProgram? base args else none) with
            | .terminal _, some p =>
              if p.finished then m.finish 0 else ({ m with control := .lines p rs }, none)
            | _, _ =>
              let r := (sh.system env).run base args stdin
              (m.emitProgram rs r).finish r.status
termination_by args.length

/-- Runs a simple command whose words have been expanded: a function, a
    builtin or a program. -/
def invoke (run : Runner) (m : Machine) (rs : Routes) (input : Input) (own : Bool) (c : Command)
    (assigns : List (String × String)) (name : String) (args : List String) : Stepped :=
  let sh := m.shell
  match sh.functions.lookup name with
  | some body =>
    let (sh, saved) := assignFor sh assigns
    let frames := [Frame.call sh.args sh.cursor []] ++
      (if rs = m.routes then [] else [Frame.redirect m.routes none]) ++
      (if saved.isEmpty then [] else [Frame.restore saved])
    let m := { m with shell := { sh with args := args, cursor := {} }, routes := rs }
    m.enter frames body
  | none =>
    if assigns.isEmpty || !(builtins.contains name) then m.runNamed run rs input own c assigns name args
    else if specialBuiltins.contains name then
      let sh := assigns.foldl (fun s (n, v) =>
        let s := s.setVar n v
        if name = "exec" then s.exportVar n else s) sh
      { m with shell := sh }.runNamed run rs input own c assigns name args
    else
      let (sh, saved) := assignFor sh assigns
      let before := m.stack
      match { m with shell := sh, stack := .restore saved :: before }.runNamed run rs input own c assigns name args with
      | (m, some .waiting) => ({ m with shell := restoreAssigned m.shell saved, stack := before }, some .waiting)
      | r => r

/-- Runs a simple command. -/
def simple (run : Runner) (m : Machine) (c : Command) : Stepped :=
  let x := m.expander run c.line
  let (fields, e) := x.fieldsOf {} c.words
  match e.failure with
  | some msg => (m.absorb e).fail m.routes c.line msg
  | none =>
    match redirections x m.shell e m.routes none c.redirects with
    | .error msg => ((m.absorb e).complain m.routes c.line msg).finish 2
    | .ok (sh, e, rs, newInput) =>
      let m := { m with shell := sh }
      let (assigns, e) := c.assigns.foldl (fun (acc : List (String × String) × Expansion) (n, w) =>
        let (v, e) := (m.expander run c.line).text acc.2 w
        (acc.1 ++ [(n, v)], e)) ([], e)
      let m := m.absorb e
      match e.failure, assigns.find? (m.shell.isReadonly ·.1) with
      | some msg, _ => m.fail rs c.line msg
      | none, some (n, _) => m.fail rs c.line (readonlyMessage n)
      | none, none =>
        let input := newInput.getD m.input
        let m := if m.shell.xtrace then
            let shown := assigns.map (fun (n, v) => n ++ "=" ++ v) ++ fields
            m.emitTo m.routes.err (bytesOf ((m.shell.vars.lookup "PS4").getD "+ " ++ " ".intercalate shown ++ "\n"))
          else m
        match fields with
        | [] =>
          let m := { m with shell := assigns.foldl (fun s (n, v) => s.setVar n v) m.shell }
          m.finish (e.substStatus.getD 0)
        | name :: args => m.invoke run rs input newInput.isNone c assigns name args

/-! ### Steps -/

/-- Runs a pipeline of several commands, each in a copy of the shell,
    the output of one the input of the next. -/
def pipeline (run : Runner) (m : Machine) (bang : Bool) (stages : List Cmd) : Stepped :=
  let first : Input := match m.input with
    | .bytes b => .bytes b
    | .terminal _ => .bytes []
  let copy := fun (sh : Environment) => { sh.childShell with interactive := false }
  let (m, last, status) := stages.foldl (fun (acc : Machine × Input × Nat) stage =>
    let (m, input, _) := acc
    let f := run (copy m.shell) input (.run stage)
    let m := { m with shell := { m.shell with fs := f.shell.fs } }
    (m.emitTo m.routes.err f.err, .bytes f.out, f.shell.status)) (m, first, 0)
  let m := match last with
    | .bytes out => m.emitTo m.routes.out out
    | .terminal _ => m
  m.finish (if bang then (if status = 0 then 1 else 0) else status)

/-- Starts a command. -/
def start (run : Runner) (m : Machine) (c : Cmd) : Stepped :=
  match c with
  | .simple cmd => m.simple run cmd
  | .pipe bang [single] => m.enter (if bang then [.negate] else []) single
  | .pipe bang stages => m.pipeline run bang stages
  | .chain first rest => m.enter (if rest.isEmpty then [] else [.chain rest]) first
  | .seq [] => m.finish m.shell.status
  | .seq (c :: rest) => m.enter (if rest.isEmpty then [] else [.seq rest]) c
  | .group body => m.enter [] body
  | .subshell body => { m with shell := m.shell.childShell }.enter [.subshell m.shell] body
  | .cond test t e => m.enter [.branch t e] test
  | .loop test body u => m.enter [.loopTest test body u 0] test
  | .forEach var items body =>
    let (values, e) := match items with
      | some ws => (m.expander run 1).fieldsOf {} ws
      | none => (m.shell.args, {})
    let m := m.absorb e
    if m.shell.isReadonly var && !values.isEmpty then m.fail m.routes 1 (readonlyMessage var)
    else
      ({ m with control := .done, stack := .forBody var values body :: m.stack,
                 shell := { m.shell with status := 0 } }, none)
  | .choose subject arms =>
    let x := m.expander run 1
    let (text, e) := x.text {} subject
    let rec pick (e : Expansion) : List (List Word × Cmd) → Option Cmd × Expansion
      | [] => (none, e)
      | (pats, body) :: more =>
        let (hit, e) := pats.foldl (fun (acc : Bool × Expansion) w =>
          if acc.1 then acc
          else
            let (p, e) := x.patternOf acc.2 w
            (p.matches text.toList, e)) (false, e)
        if hit then (some body, e) else pick e more
    let (body, e) := pick e arms
    let m := m.absorb e
    match body with
    | some b => m.enter [] b
    | none => m.finish 0
  | .define name body =>
    let sh := m.shell
    m.finish 0 |> fun (m', h) =>
      ({ m' with shell := { m'.shell with functions := (name, body) :: sh.functions.filter (·.1 ≠ name) } }, h)
  | .redirected body rs =>
    let x := m.expander run 1
    match redirections x m.shell {} m.routes none rs with
    | .error msg => (m.complain m.routes 1 msg).finish 2
    | .ok (sh, e, routes, input) =>
      let m := ({ m with shell := sh }).absorb e
      let frame := Frame.redirect m.routes (input.map fun _ => m.input)
      ({ m with routes := routes, input := input.getD m.input, control := .run body,
                 stack := frame :: m.stack }, none)

/-- The commands of the exit trap, unless there are none. -/
def exitAction (m : Machine) : Option String :=
  match m.shell.trapOf 0 with
  | some a => if a.isEmpty then none else some a
  | none => none

/-- Runs the commands of the exit trap, once: the trap is cleared, and the
    status they leave is that before them; then `frames` go on. -/
def runExitTrap (m : Machine) (action : String) (frames : List Frame) : Stepped :=
  let m := { m with shell := m.shell.withTrap 0 none }
  ({ m with control := .source (Tokens.ofScript action m.shell.aliases 1),
             stack := .keepStatus m.shell.status :: frames ++ m.stack }, none)

/-- Hands the status of a finished command to the frame on top. -/
def resume (m : Machine) (f : Frame) (rest : List Frame) : Stepped :=
  let m := { m with stack := rest }
  let s := m.shell.status
  match f with
  | .seq [] => ({ m with control := .done }, none)
  | .seq (c :: more) => m.enter (if more.isEmpty then [] else [.seq more]) c
  | .script ts => ({ m with control := .source ts }, none)
  | .context saved => ({ m with control := .done, shell := { m.shell with context := saved } }, none)
  | .chain [] => ({ m with control := .done }, none)
  | .chain ((conn, c) :: more) =>
    let frames := if more.isEmpty then [] else [Frame.chain more]
    if (conn = .ifOk) = (s = 0) then m.enter frames c
    else ({ m with control := .done, stack := frames ++ m.stack }, none)
  | .negate => m.finish (if s = 0 then 1 else 0) |> fun (m, h) => ({ m with control := .done }, h)
  | .branch t e =>
    if s = 0 then m.enter [] t
    else match e with
      | some e => m.enter [] e
      | none => ({ m with control := .done, shell := { m.shell with status := 0 } }, none)
  | .loopTest test body u last =>
    if (s = 0) ≠ u then m.enter [.loopBody test body u] body
    else ({ m with control := .done, shell := { m.shell with status := last } }, none)
  | .loopBody test body u => m.enter [.loopTest test body u s] test
  | .forBody var values body =>
    match values with
    | [] => ({ m with control := .done }, none)
    | v :: more =>
      let m := { m with shell := m.shell.setVar var v }
      m.enter [.forBody var more body] body
  | .call args cursor saved =>
    ({ m with control := .done, shell := { restoreLocals m.shell saved with args, cursor } }, none)
  | .subshell saved =>
    match m.exitAction with
    | some action => m.runExitTrap action [.subshell saved]
    | none => ({ m with shell := { saved with fs := m.shell.fs } }).finish s
  | .redirect routes input =>
    ({ m with control := .done, routes := routes, input := input.getD m.input }, none)
  | .exitAfter => ({ m with control := .leave .exit }, none)
  | .keepStatus status => ({ m with control := .done, shell := { m.shell with status := status } }, none)
  | .restore saved => ({ m with control := .done, shell := restoreAssigned m.shell saved }, none)

/-- Leaves the frame on top early. -/
def unwind (m : Machine) (l : Leave) (f : Frame) (rest : List Frame) : Stepped :=
  let m := { m with stack := rest }
  let loopFrame := match f with
    | .loopTest _ _ _ _ | .loopBody _ _ _ | .forBody _ _ _ => true
    | _ => false
  match l, f with
  | .brk n, _ =>
    if loopFrame then
      if n ≤ 1 then ({ m with control := .done, shell := { m.shell with status := 0 } }, none)
      else ({ m with control := .leave (.brk (n - 1)) }, none)
    else passThrough l f m
  | .cont n, _ =>
    if loopFrame then
      if n ≤ 1 then
        match f with
        | .loopTest test body u last => m.enter [.loopTest test body u last] test
        | _ => ({ m with control := .done, shell := { m.shell with status := 0 }, stack := f :: m.stack }, none)
      else ({ m with control := .leave (.cont (n - 1)) }, none)
    else passThrough l f m
  | .ret, .call args cursor saved =>
    ({ m with control := .done, shell := { restoreLocals m.shell saved with args, cursor } }, none)
  | _, _ => passThrough l f m
where
  /-- Leaves a frame that does not stop this kind of leaving. -/
  passThrough (l : Leave) (f : Frame) : Machine → Stepped := fun m =>
    match f with
    | .subshell saved =>
      match m.exitAction with
      | some action => m.runExitTrap action [.subshell saved]
      | none => ({ m with shell := { saved with fs := m.shell.fs } }).finish m.shell.status
    | .redirect routes input =>
      ({ m with routes := routes, input := input.getD m.input }, none)
    | .restore saved => ({ m with shell := restoreAssigned m.shell saved }, none)
    | .context saved => ({ m with shell := { m.shell with context := saved } }, none)
    | .call args cursor saved =>
      let sh := { restoreLocals m.shell saved with args, cursor }
      match l with
      | .exit => ({ m with shell := sh }, none)
      | _ => ({ m with control := .done, shell := sh }, none)
    | _ => (m, none)

/-- Whether the shell ends when nothing is left: it does unless it reads
    commands from the terminal and was not told to exit. -/
def ends (m : Machine) : Bool :=
  m.killedBy.isSome ||
    match m.control with
    | .leave .exit => true
    | _ => !m.shell.interactive

/-- Gives the next piece typed at the terminal to a program reading it; an
    empty piece is the end of its input. -/
def feedLines (m : Machine) (p : LineProgram) (rs : Routes) : Stepped :=
  match m.input with
  | .terminal ([] :: ls) =>
    let r := p.close (m.shell.system m.shell.programEnvironment)
    ({ m with input := .terminal ls }.emitProgram rs r).finish r.status
  | .terminal (l :: ls) =>
    let (r, next) := p.feed l
    let m := { m with input := .terminal ls }.emitProgram rs r
    match next with
    | some p' => ({ m with control := .lines p' rs }, none)
    | none => m.finish 0
  | .terminal [] => (m, some .waiting)
  | .bytes _ => m.finish 0

/-- Reads the next command of a script and runs it, with the rest of the
    script left for after it; the aliases are those in force now. -/
def source (m : Machine) (ts : Tokens) : Stepped :=
  match { ts with aliases := m.shell.aliases }.next with
  | .ok (some c, rest) => m.enter [.script rest] c
  | .ok (none, _) => ({ m with control := .done }, none)
  | .error (line, msg) => m.fail m.routes line msg

/-- Runs the trap of a signal caught, with the status before it kept
    after it. -/
def runTrap (m : Machine) (n : Nat) : Stepped :=
  match m.shell.trapOf n with
  | some action =>
    if action.isEmpty then (m, none)
    else
      ({ m with control := .source (Tokens.ofScript action m.shell.aliases 1),
                 stack := .keepStatus m.shell.status :: m.stack }, none)
  | none => (m, none)

/-- Nothing is left to run: a shell that ends runs its exit trap first,
    and then exits once more. -/
def atEnd (m : Machine) : Stepped :=
  match m.exitAction with
  | some action => if m.ends then m.runExitTrap action [.exitAfter] else (m, some .finished)
  | none => (m, some .finished)

/-- One step. Once a command is done, the traps of the signals caught run
    first; a shell that a signal ended does nothing more. -/
def step (run : Runner) (m : Machine) : Stepped :=
  if m.killedBy.isSome then (m, some .finished)
  else
    match m.control, m.stack, m.caught with
    | .run c, _, _ => m.start run c
    | .source ts, _, _ => m.source ts
    | .lines p rs, _, _ => m.feedLines p rs
    | .done, _, n :: more => { m with caught := more }.runTrap n
    | .done, f :: rest, [] => m.resume f rest
    | .leave l, f :: rest, _ => m.unwind l f rest
    | _, [], _ => m.atEnd

end Machine

/-- Runs a machine until it halts or `fuel` steps are spent. Pipelines,
    command substitutions and shells started as programs run in machines
    of their own, each with the fuel left. -/
def drive : (fuel : Nat) → Machine → Machine × Halt
  | 0, m => (m, .stopped)
  | fuel + 1, m =>
    let run : Runner := fun sh input c =>
      let (m', _) := drive fuel { shell := sh, control := c, input := input }
      let sh := match m'.killedBy with
        | some n => { m'.shell with status := 128 + n }
        | none => m'.shell
      { shell := sh, out := m'.out.bytes, err := m'.err.bytes, killedBy := m'.killedBy }
    match m.step run with
    | (m', some h) => (m', h)
    | (m', none) => drive fuel m'

/-- The prompt before a command line, as the shell of the superuser shows
    it unless `PS1` described otherwise. -/
def Machine.primaryPrompt (m : Machine) : String := (m.shell.vars.lookup "PS1").getD "# "

/-- The prompt before a further line of an unfinished command. -/
def Machine.continuationPrompt (m : Machine) : String := (m.shell.vars.lookup "PS2").getD "> "

/-- Whether a syntax error only described that the command goes on past the
    text read so far. -/
def unfinished (msg : String) : Bool :=
  msg.startsWith (unexpected "end of file") || msg = unterminated

/-- A shell reading its commands from the terminal after the quit signal,
    which it ignores itself: a program it runs from the terminal ends, and
    the shell reports it and goes on with status 131. -/
def Machine.quitProgram (m : Machine) : Machine :=
  match m.control with
  | .lines _ _ => (m.emitTo .stderr (bytesOf "Quit\n")).finish 131 |>.1
  | _ => m

/-- What a shell at a terminal did until it stopped: the machine (its output
    in `out`), the lines typed and not read, and the exit status once it has
    exited. -/
structure Progress where
  machine : Machine
  lines : List (List UInt8)
  exited : Option Nat

/-- Runs a shell at a terminal with the lines typed so far until it exits
    or waits for a line, each command with `fuel` steps. A shell that reads
    its commands from the terminal shows its prompt when a command is done
    and reads the next one, over several lines while it does not end. -/
def Machine.atTerminal (fuel : Nat) (m : Machine) (lines : List (List UInt8)) : (rounds : Nat) → Progress
  | 0 => ⟨m, lines, none⟩
  | rounds + 1 =>
    let (m, halt) := drive fuel { m with input := .terminal lines }
    let lines := match m.input with
      | .terminal ls => ls
      | .bytes _ => lines
    match halt with
    | .waiting | .stopped => ⟨m, lines, none⟩
    | .finished =>
      if m.ends then ⟨m, lines, some m.shell.status⟩
      else
        let m := if m.lineRequested then m
          else { m.emitTo .stderr (bytesOf m.primaryPrompt) with lineRequested := true }
        match terminalLine [] lines with
        | none => ⟨m, lines, none⟩
        | some (l, complete, ls) =>
          if !complete && l.isEmpty && m.pending.isEmpty then
            let m := m.emitTo .stderr [0x0A]
            ⟨m, ls, some m.shell.status⟩
          else
            let ls := if complete then ls else [] :: ls
            let sh := if m.pending.isEmpty then { m.shell with lineOffset := m.linesRead } else m.shell
            let m := { m with shell := sh, linesRead := m.linesRead + 1, lineRequested := false }
            let text := m.pending ++ textOf (if complete then l ++ [0x0A] else l)
            match parse text m.shell.aliases 1 with
            | .ok cmd => Machine.atTerminal fuel { m with control := .run cmd, pending := "" } ls rounds
            | .error (line, msg) =>
              if unfinished msg && complete then
                let m := m.emitTo .stderr (bytesOf m.continuationPrompt)
                Machine.atTerminal fuel { m with pending := text, lineRequested := true } ls rounds
              else
                let m := m.complain m.routes line msg
                Machine.atTerminal fuel { m with shell := { m.shell with status := 2 }, pending := "" } ls rounds

end ReplHost.Shell
