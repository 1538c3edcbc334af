import ReplHost.Shell.State
import ReplHost.Shell.Expr
import ReplHost.Shell.Printf
import ReplHost.Shell.Seq
import ReplHost.Shell.Sorting
import ReplHost.Shell.Fields
import ReplHost.Shell.Translate

/-! # Shell command language: the programs on the search path

  The utilities a script may start, by the base name of their file, as
  functions from their arguments, standard input and the system they see
  (the shell's file system, working directory, environment and terminal
  size) to their output, errors and exit status. File arguments are read
  from the file system; a missing file is reported as the utility
  reports it and gives status 1.

  A utility that reads a terminal gets its input a line at a time, as the
  lines are typed: `LineProgram` is such a utility between two lines.
-/

namespace ReplHost.Shell

/-- What a program sees of the system. -/
structure System where
  /-- The file system. -/
  fs : FileSystem
  /-- The working directory, in the shell's text. -/
  cwd : String
  /-- The environment. -/
  env : List (String × String)
  /-- The terminal size. -/
  size : TermSize := {}

/-- The system a shell's programs see. -/
def Environment.system (sh : Environment) (env : List (String × String)) : System :=
  { fs := sh.fs, cwd := sh.cwd, env := env, size := sh.size }

/-- How a program reads the files its arguments name. -/
def System.reader (sys : System) : Reader := fun f => sys.fs.read (fsName sys.cwd) (fsName f)

/-- `ls`: each operand that is a file, and the names in each that is a
    directory (the working directory when there is none); an operand that
    does not exist is reported and makes the status 2. -/
def System.list (sys : System) (args : List String) : Result :=
  let operands := args.filter fun a => !a.startsWith "-" || a = "-"
  let operands := if operands.isEmpty then ["."] else operands
  let found := operands.map fun p =>
    match sys.fs.resolve (fsName sys.cwd) (fsName p) with
    | .ok abs =>
      if sys.fs.isDir abs then some ((sys.fs.entries abs).map rawText)
      else if (sys.fs.file? abs).isSome then some [p] else none
    | .error _ => none
  let missing := (operands.zip found).filterMap fun (p, f) => if f.isNone then some p else none
  let names := found.filterMap id |>.flatten
  { out := bytesOf (String.join (names.map (· ++ "\n"))),
    err := bytesOf (String.join (missing.map fun p => "ls: cannot access '" ++ p ++ "': No such file or directory\n")),
    status := if missing.isEmpty then 0 else 2 }

/-- Runs the utility with base name `name`. -/
def System.run (sys : System) (name : String) (args : List String) (stdin : List UInt8) : Result :=
  match name with
  | "echo" => programEcho args
  | "printf" => printfProgram args
  | "seq" => seq args
  | "tail" => tail sys.reader args stdin
  | "head" => head sys.reader args stdin
  | "cat" => cat sys.reader args stdin
  | "wc" => wc sys.reader args stdin
  | "sort" => sort sys.reader args stdin
  | "uniq" => uniq sys.reader args stdin
  | "tr" => tr args stdin
  | "cut" => cut sys.reader args stdin
  | "yes" => yes args
  | "expr" => expr args
  | "stty" =>
    if args = ["size"] then
      { out := bytesOf (Decimal.render sys.size.rows ++ " " ++ Decimal.render sys.size.cols ++ "\n") }
    else {}
  | "env" | "printenv" =>
    match args with
    | [v] =>
      match sys.env.lookup v with
      | some x => { out := bytesOf (x ++ "\n") }
      | none => { status := 1 }
    | _ => { out := bytesOf (String.join (sys.env.map fun (k, v) => k ++ "=" ++ v ++ "\n")) }
  | "pwd" => { out := bytesOf (sys.cwd ++ "\n") }
  | "ls" => sys.list args
  | "true" | "sleep" => {}
  | "false" => { status := 1 }
  | "basename" =>
    match args with
    | [p] => { out := bytesOf (baseName p ++ "\n") }
    | [p, suffix] =>
      let b := baseName p
      let b := if b ≠ suffix && b.endsWith suffix then String.ofList (b.toList.take (b.length - suffix.length)) else b
      { out := bytesOf (b ++ "\n") }
    | _ => { err := bytesOf "basename: missing operand\nTry 'basename --help' for more information.\n", status := 1 }
  | "dirname" =>
    match args with
    | p :: _ => { out := bytesOf (dirName p ++ "\n") }
    | [] => { err := bytesOf "dirname: missing operand\nTry 'dirname --help' for more information.\n", status := 1 }
  | "uname" => { out := bytesOf "Linux\n" }
  | "id" =>
    match args with
    | ["-u"] | ["-g"] => { out := bytesOf "0\n" }
    | ["-un"] | ["-gn"] | ["-u", "-n"] | ["-n", "-u"] => { out := bytesOf "root\n" }
    | _ => { out := bytesOf "uid=0(root) gid=0(root) groups=0(root)\n" }
  | "whoami" => { out := bytesOf "root\n" }
  | _ => {}

/-! ### Programs reading the terminal -/

/-- A program that reads the terminal line by line, with what it keeps
    between lines. -/
inductive LineProgram where
  /-- Copies each line, numbered or marked as `cat`'s options say. -/
  | cat (mode : CatMode) (state : CatState)
  /-- Maps the characters of each line (`tr`). -/
  | translate (args : List String)
  /-- Cuts parts out of each line (`cut`). -/
  | cutLines (plan : CutPlan)
  /-- Copies lines until `left` more have been copied (`head`). -/
  | firstLines (left : Nat)
  /-- Reads all its input before it writes anything (`sort`, `wc`,
      `tail`, `uniq`): the input so far. -/
  | collect (name : String) (args : List String) (input : List UInt8)

/-- The line program a utility is when it reads a terminal: one that reads
    standard input, without file arguments, and with arguments it accepts. -/
def lineProgram? (name : String) (args : List String) : Option LineProgram :=
  let readsStdin := fun (specs : List OptionSpec) =>
    match readOptions specs args with
    | .ok (opts, operands) => if operands.all (· = "-") then some opts else none
    | .error _ => none
  match name with
  | "cat" => (readsStdin catOptions).map fun opts => .cat (catMode opts) {}
  | "tr" => if (tr args []).status = 0 then some (.translate args) else none
  | "cut" =>
    match readOptions cutOptions args with
    | .ok (opts, operands) =>
      if operands.all (· = "-") then (cutPlan opts).toOption.map .cutLines else none
    | .error _ => none
  | "head" =>
    match headPlan args with
    | .ok (sp, opts, operands) =>
      if !operands.all (· = "-") then none
      else if sp.lines && !sp.other && !GivenOption.has opts "v" && !GivenOption.has opts "z" then
        some (.firstLines sp.count)
      else some (.collect name args [])
    | .error _ => none
  | "tail" => (readsStdin tailOptions).map fun _ => .collect name args []
  | "sort" => (readsStdin sortOptions).map fun _ => .collect name args []
  | "uniq" => (readsStdin uniqOptions).map fun _ => .collect name args []
  | "wc" => (readsStdin wcOptions).map fun _ => .collect name args []
  | _ => none

/-- Whether a line program has nothing left to do before reading. -/
def LineProgram.finished : LineProgram → Bool
  | .firstLines 0 => true
  | _ => false

/-- Feeds one piece typed at the terminal (a line with its line break, or
    text handed over by `^D`) to a line program: what it writes, and the
    program afterwards, `none` once it has ended. -/
def LineProgram.feed : LineProgram → List UInt8 → Result × Option LineProgram
  | .cat m st, l =>
    let (out, st) := catLine m st l
    ({ out := out }, some (.cat m st))
  | .translate args, l => (tr args l, some (.translate args))
  | .cutLines p, l => ({ out := cutInput p l }, some (.cutLines p))
  | .firstLines n, l =>
    if l.getLast? = some 0x0A then ({ out := l }, if n ≤ 1 then none else some (.firstLines (n - 1)))
    else ({ out := l }, some (.firstLines n))
  | .collect name args acc, l => ({}, some (.collect name args (acc ++ l)))

/-- Ends the input of a line program: what it writes then. A program that
    reads all its input first runs on it now. -/
def LineProgram.close (sys : System) : LineProgram → Result
  | .collect name args acc => sys.run name args acc
  | _ => {}

end ReplHost.Shell
