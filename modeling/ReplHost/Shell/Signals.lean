import ReplHost.Shell.Utilities

/-! # Signals, `kill` and `trap`

  Signals are numbered as on Linux, from 1 to 64. For traps, number 0
  stands for the shell's own exit. Every number has a name, the one
  `kill -l` and `trap` show, without a `SIG` prefix:

  - 1 to 31 by their usual names, except 16, which goes by its number;
  - 32 and 33, which also go by their numbers;
  - the real-time signals: `RTMIN` (34), `RTMIN+1` to `RTMIN+15`, then
    `RTMAX-14` to `RTMAX-1`, and `RTMAX` (64).

  A signal is named by its number (below 65) or by its name in any case.
  A process that neither catches nor ignores a signal ends, except for
  the signals ignored by default (`CHLD`, `CONT`, `URG`, `WINCH`) and
  those that stop it (`STOP`, `TSTP`, `TTIN`, `TTOU`).

  This module also reads arguments of builtins: their options, the count
  arguments of `exit`, `return`, `shift`, `break` and `continue`, and
  those of `kill` and `trap`; running them is the machine's part.
-/

namespace ReplHost.Shell

/-- How many signal numbers there are, 0 included. -/
def signalLimit : Nat := 65

/-- The names of the signals 0 to 33. -/
def lowSignalNames : List String :=
  ["EXIT", "HUP", "INT", "QUIT", "ILL", "TRAP", "ABRT", "BUS", "FPE", "KILL", "USR1", "SEGV",
   "USR2", "PIPE", "ALRM", "TERM", "16", "CHLD", "CONT", "STOP", "TSTP", "TTIN", "TTOU", "URG",
   "XCPU", "XFSZ", "VTALRM", "PROF", "WINCH", "IO", "PWR", "SYS", "32", "33"]

/-- The name of a signal number. -/
def signalName (n : Nat) : String :=
  if n < 34 then lowSignalNames.getD n (Decimal.render n)
  else if n = 34 then "RTMIN"
  else if n ≤ 49 then "RTMIN+" ++ Decimal.render (n - 34)
  else if n < 64 then "RTMAX-" ++ Decimal.render (64 - n)
  else if n = 64 then "RTMAX"
  else Decimal.render n

/-- A character in upper case, when it is a lower-case ASCII letter. -/
def upperAscii (c : Char) : Char := if 'a' ≤ c && c ≤ 'z' then Char.ofNat (c.toNat - 32) else c

/-- Reads a signal given by number: digits only, below `signalLimit`. -/
def signalNumber? (text : String) : Option Nat :=
  if !text.isEmpty && text.all Char.isDigit then
    match text.toNat? with
    | some n => if n < signalLimit then some n else none
    | none => none
  else none

/-- Reads a signal given by number or by name in any case; names are
    looked up from number `least` on, so that `EXIT` can be left out. -/
def decodeSignal (text : String) (least : Nat) : Option Nat :=
  match signalNumber? text with
  | some n => some n
  | none =>
    let wanted := text.toList.map upperAscii
    (List.range signalLimit).find? fun n => least ≤ n && (signalName n).toList = wanted

/-- What a signal does to a process that neither catches nor ignores it. -/
inductive SignalEffect where
  /-- The process ends. -/
  | ends
  /-- Nothing. -/
  | ignored
  /-- The process stops until it is continued. -/
  | stops
  deriving DecidableEq, Repr

/-- The effect of a signal that is not caught. -/
def defaultEffect (n : Nat) : SignalEffect :=
  if n = 17 || n = 18 || n = 23 || n = 28 then .ignored
  else if 19 ≤ n && n ≤ 22 then .stops
  else .ends

/-- The descriptions of the signals 1 to 31. -/
def signalDescriptions : List String :=
  ["Hangup", "Interrupt", "Quit", "Illegal instruction", "Trace/breakpoint trap", "Aborted",
   "Bus error", "Floating point exception", "Killed", "User defined signal 1",
   "Segmentation fault", "User defined signal 2", "Broken pipe", "Alarm clock", "Terminated",
   "Stack fault", "Child exited", "Continued", "Stopped (signal)", "Stopped",
   "Stopped (tty input)", "Stopped (tty output)", "Urgent I/O condition",
   "CPU time limit exceeded", "File size limit exceeded", "Virtual timer expired",
   "Profiling timer expired", "Window changed", "I/O possible", "Power failure",
   "Bad system call"]

/-- How a signal is described when it ends a program. -/
def signalDescription (n : Nat) : String :=
  if 1 ≤ n && n ≤ 31 then signalDescriptions.getD (n - 1) ""
  else if 34 ≤ n && n ≤ 64 then "Real-time signal " ++ Decimal.render (n - 34)
  else "Unknown signal " ++ Decimal.render n

/-- The line a shell writes when a program it waited for was ended by a
    signal: the signal's description, except for an interrupt or a broken
    pipe, which end programs too often to be worth a word. -/
def deathNotice (n : Nat) : String :=
  if n = 2 || n = 13 then "" else signalDescription n ++ "\n"

/-! ### Arguments of builtins -/

/-- Reads the options of a builtin that knows the letters `known`, none of
    which takes an argument: the letters given and the operands. Options
    come first; `--` ends them, and `-` alone is an operand. The error is
    the first letter not known. -/
def builtinOptions (known : List Char) : List String → Except Char (List Char × List String)
  | [] => .ok ([], [])
  | a :: rest =>
    if a = "--" then .ok ([], rest)
    else
      match a.toList with
      | '-' :: c :: cs =>
        match (c :: cs).find? (!known.contains ·) with
        | some bad => .error bad
        | none => (builtinOptions known rest).map fun (ls, ops) => (c :: cs ++ ls, ops)
      | _ => .ok ([], a :: rest)

/-- The message for an option a builtin does not know. -/
def illegalOption (c : Char) : String := "Illegal option -" ++ String.singleton c

/-- A blank as the C library counts it. -/
def isCBlank (c : Char) : Bool :=
  c = ' ' || c = '\t' || c = '\n' || c = '\r' || c = '\x0b' || c = '\x0c'

/-- The largest number a count argument may have. -/
def countLimit : Nat := 2147483647

/-- Reads a count argument of a builtin: blanks, a sign, digits and blanks;
    a value that is negative or above `countLimit` is no count. -/
def countArg (a : String) : Option Nat :=
  let cs := a.toList.dropWhile isCBlank
  let (negative, cs) := match cs with
    | '-' :: r => (true, r)
    | '+' :: r => (false, r)
    | r => (false, r)
  let digits := cs.takeWhile Char.isDigit
  let after := cs.dropWhile Char.isDigit
  if digits.isEmpty || !after.all isCBlank then none
  else
    let v := digits.foldl (fun acc d => 10 * acc + (d.toNat - '0'.toNat)) 0
    if (negative && v ≠ 0) || v > countLimit then none else some v

/-- The message for an argument that is no count. -/
def illegalNumber (a : String) : String := "Illegal number: " ++ a

/-! ### `kill` -/

/-- What `kill` was asked to do. -/
inductive KillRequest where
  /-- List the names of all signals. -/
  | listAll
  /-- Name the signal of a number, or of the status of a program it ended. -/
  | nameOf (arg : String)
  /-- Send a signal to processes, process groups (`-N`) and jobs (`%…`). -/
  | send (signal : Nat) (targets : List String)
  deriving DecidableEq, Repr

/-- How `kill` is used. -/
def killUsage : String :=
  "Usage: kill [-s sigspec | -signum | -sigspec] [pid | job]... or\nkill -l [exitstatus]"

/-- The message for a signal name that names none. -/
def unknownSignal (name : String) : String := "invalid signal number or name: " ++ name

/-- Reads the options of `kill` after a first argument that named no
    signal: `-l` asks for names, `-s NAME` names the signal. Returns whether
    names were asked for, the signal named last, and the operands. -/
def killOptions (list : Bool) (signal : Option Nat) :
    List String → Except String (Bool × Option Nat × List String)
  | [] => .ok (list, signal, [])
  | a :: rest =>
    if a = "--" then .ok (list, signal, rest)
    else
      match a.toList with
      | '-' :: c :: cs => group list signal (c :: cs) rest
      | _ => .ok (list, signal, a :: rest)
termination_by args => (args.length, 0)
where
  /-- Reads a group of option letters, then the arguments after it. -/
  group (list : Bool) (signal : Option Nat) (cs : List Char) (rest : List String) :
      Except String (Bool × Option Nat × List String) :=
    match cs with
    | [] => killOptions list signal rest
    | 'l' :: more => group true signal more rest
    | 's' :: more =>
      if more.isEmpty then
        match rest with
        | name :: after =>
          match decodeSignal name 1 with
          | some n => killOptions list (some n) after
          | none => .error (unknownSignal name)
        | [] => .error "No arg for -s option"
      else
        match decodeSignal (String.ofList more) 1 with
        | some n => killOptions list (some n) rest
        | none => .error (unknownSignal (String.ofList more))
    | c :: _ => .error ("Illegal option -" ++ String.singleton c)
  termination_by (rest.length, cs.length + 1)

/-- Reads the arguments of `kill`; the error is the message. A first
    argument `-SIGNAL` or `-NUMBER` names the signal; else options follow.
    The signal is `TERM` unless named, and there must be operands, except
    when names are asked for. -/
def killRequest (args : List String) : Except String KillRequest := do
  if args.isEmpty then throw killUsage
  let (list, signal, operands) ← match args with
    | a :: rest =>
      match a.toList with
      | '-' :: cs =>
        match decodeSignal (String.ofList cs) 1 with
        | some n => pure (false, some n, rest)
        | none => killOptions false none args
      | _ => pure (false, none, args)
    | [] => pure (false, none, [])
  let signal := if list then signal else some (signal.getD 15)
  match list, signal, operands with
  | false, some n, t :: ts => pure (.send n (t :: ts))
  | true, _, [] => pure .listAll
  | true, none, a :: _ => pure (.nameOf a)
  | _, _, _ => throw killUsage

/-- What `kill -l` prints: `0`, then the name of every signal, a line
    each. -/
def signalList : String :=
  String.join ("0\n" :: (List.range (signalLimit - 1)).map fun i => signalName (i + 1) ++ "\n")

/-- The name `kill -l N` prints: that of signal N, or of N - 128 for the
    status of a program a signal ended. -/
def exitSignalName (a : String) : Except String String :=
  match countArg a with
  | none => .error (illegalNumber a)
  | some v =>
    let n := if v > 128 then v - 128 else v
    if 0 < n && n < signalLimit then .ok (signalName n)
    else .error ("invalid signal number or exit status: " ++ a)

/-- Reads a target of `kill`: the number of a process, 0 for the caller's
    own process group, or `-` and the number of a process group, given as
    a negative number. A job (`%…`) is named by no job here, since none
    runs in the background. -/
def killTarget (a : String) : Except String Int :=
  match a.toList with
  | '%' :: rest =>
    match rest with
    | [] | ['%'] | ['+'] => .error "No current job"
    | ['-'] => .error "No previous job"
    | _ => .error ("No such job: " ++ a)
  | '-' :: rest =>
    let b := String.ofList rest
    match countArg b with
    | some n => .ok (-(n : Int))
    | none => .error (illegalNumber b)
  | _ =>
    match countArg a with
    | some n => .ok n
    | none => .error (illegalNumber a)

/-! ### `trap` -/

/-- What `trap` was asked to do. -/
inductive TrapRequest where
  /-- List the traps set. -/
  | list
  /-- Set the action for signals named in the arguments; `none` puts back
      what the signal does by default. -/
  | set (action : Option String) (signals : List String)
  deriving DecidableEq, Repr

/-- Reads the arguments of `trap`; the error is the message. A first `--`
    is skipped, and no other option exists. The first argument is the
    action unless it is the only one or a signal number; `-` as the action
    also puts back the default. -/
def trapRequest (args : List String) : Except String TrapRequest :=
  match args with
  | "--" :: rest => .ok (request rest)
  | a :: rest =>
    match a.toList with
    | '-' :: c :: _ => .error ("Illegal option -" ++ String.singleton c)
    | _ => .ok (request (a :: rest))
  | [] => .ok .list
where
  /-- Reads the arguments after the options. -/
  request : List String → TrapRequest
    | [] => .list
    | [a] => .set none [a]
    | a :: rest =>
      if (signalNumber? a).isSome then .set none (a :: rest)
      else if a = "-" then .set none rest
      else .set (some a) rest

/-- Quotes a value as the shell lists values, for reading back: each
    stretch without single quotes inside single quotes, each run of single
    quotes inside double quotes. The text starts with a single-quoted
    stretch, possibly empty, and ends with the last stretch. -/
def quoteValue (v : String) : String :=
  String.ofList ('\'' :: go false v.toList)
where
  /-- Continues the quoted text; `inQuotes` tells whether a double-quoted
      run of single quotes is open. -/
  go (inQuotes : Bool) : List Char → List Char
    | [] => [if inQuotes then '"' else '\'']
    | '\'' :: rest =>
      if inQuotes then '\'' :: go true rest else '\'' :: '"' :: '\'' :: go true rest
    | c :: rest =>
      if inQuotes then '"' :: '\'' :: c :: go false rest else c :: go false rest

/-- The line `trap` lists for a trap. -/
def trapLine (n : Nat) (action : String) : String :=
  "trap -- " ++ quoteValue action ++ " " ++ signalName n ++ "\n"

end ReplHost.Shell
