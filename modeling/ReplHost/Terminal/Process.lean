import ReplHost.Shell.Machine
import ReplHost.Terminal.Tty
import ReplHost.Process.Spawn
import ReplHost.Process.Pty

/-! # Programs in a pseudo-terminal

  A `TerminalProcess` is a program running behind a pseudo-terminal: the
  system shell with a script (`sh -c …`), an interactive shell, or one of
  the utilities. Starting it resolves the program on the search path,
  picks its working directory (the home directory when the given one does
  not exist), and runs it until it exits or waits for a line typed at the
  terminal. Typing echoes the input and lets it go on. Everything it writes
  is shown through the terminal's output processing. Killing it ends it
  with exit code 1, the code of a process ended by a signal.
-/

namespace ReplHost

/-- The exit code reported for a process ended by a signal. -/
def signalledExitCode : Int := 1

/-- The login shell of the user the host runs as. -/
def loginShell : String := "/bin/bash"

/-- A program running behind a pseudo-terminal. -/
structure TerminalProcess where
  /-- The shell, while it runs. -/
  machine : Option Shell.Machine
  /-- Typed input. -/
  editor : Tty.LineEditor := {}
  /-- What the terminal shows and the host has not read yet. -/
  output : List UInt8 := []
  /-- The exit code, once ended. -/
  exitCode : Option Int := none

namespace TerminalProcess

/-- How many steps a shell may take for one command line between two
    inputs. -/
def stepBudget : Nat := 2000000

/-- How many command lines a shell reading the terminal may run between two
    inputs. -/
def lineBudget : Nat := 1000

/-- Runs the shell until it exits or waits for input. -/
def advance (t : TerminalProcess) : TerminalProcess :=
  match t.machine with
  | none => t
  | some m =>
    let p := m.atTerminal stepBudget t.editor.lines lineBudget
    let t := { t with editor := { t.editor with lines := p.lines },
                      output := t.output ++ Tty.cookOutput p.machine.out.bytes }
    let m := { p.machine with out := {} }
    match p.exited with
    | some code =>
      let code := if m.killedBy.isSome then signalledExitCode else (code : Int)
      { t with machine := none, exitCode := some code }
    | none => { t with machine := some m }

/-- Whether a program's base name is a shell. -/
def isShell (name : String) : Bool := name = "sh" || name = "dash" || name = "bash"

/-- The environment of a started program: the inherited one with the
    working directory and, unless set, the login shell, ordered by name. -/
def environment (env : List (String × String)) (cwd : String) : List (String × String) :=
  let env := env.filter (·.1 ≠ "PWD") ++ [("PWD", cwd)]
  let env := if env.any (·.1 = "SHELL") then env else env ++ [("SHELL", loginShell)]
  env.mergeSort fun a b => a.1 ≤ b.1

/-- A process that ended at once, having written `bytes`. -/
def ended (bytes : List UInt8) (code : Nat) : TerminalProcess :=
  { machine := none, output := Tty.cookOutput bytes, exitCode := some (code : Int) }

/-- Starts a program. `env` is the environment it inherits, the spec's
    variables already included; the error is the reason it could not start. -/
def spawn (fs : FileSystem) (env : List (String × String)) (spec : LaunchSpec) :
    Except String TerminalProcess := do
  let home := (env.lookup "HOME").getD "/"
  let cwd := startDirectory fs home spec.workingDir
  let path := (env.lookup "PATH").getD "/usr/bin:/bin"
  let resolved ← resolveProgram fs cwd path spec.program
  let name := Shell.baseName resolved
  let vars := (environment env cwd).map fun (k, v) => (Shell.rawText k, Shell.rawText v)
  let program := Shell.rawText spec.program
  let args := spec.args.map Shell.rawText
  let base : Shell.Environment :=
    Shell.Environment.withStartVariables
      { vars := vars, exported := vars.map Prod.fst, cwd := Shell.rawText cwd, arg0 := program,
        fs := fs, size := spec.size }
  let start := fun (sh : Shell.Environment) (c : Shell.Control) =>
    advance { machine := some { shell := sh, control := c, input := .terminal [], merged := true } }
  if isShell name then
    let (letters, operands) := Shell.Machine.shellOptions args
    let command := letters.contains 'c'
    let sh := base.setOptions letters true
    if command then
      match operands with
      | src :: more =>
        let sh := { sh with arg0 := more.headD program, args := more.drop 1 }
        return start sh (.source (Shell.Tokens.ofScript src [] 1))
      | [] => return ended (Shell.bytesOf (program ++ ": 0: -c requires an argument\n")) 2
    else
      match operands with
      | [] => return start { sh with interactive := true } .done
      | file :: more =>
        match sh.readFile file with
        | .ok bytes =>
          let sh := { sh with arg0 := file, args := more }
          return start sh (.source (Shell.Tokens.ofScript (Shell.textOf bytes) [] 1))
        | .error _ =>
          return ended (Shell.bytesOf (program ++ ": 0: cannot open " ++ file ++ ": No such file\n")) 2
  else
    match Shell.lineProgram? name args with
    | some p => return start base (if p.finished then .done else .lines p {})
    | none =>
      let r := (base.system vars).run name args []
      return ended (r.shown.getD (r.out ++ r.err)) r.status

/-- Whether the terminal echoes what is typed: it does unless the shell
    turned echo off. -/
def echoes (t : TerminalProcess) : Bool :=
  match t.machine with
  | some m => m.shell.echo
  | none => true

/-- Delivers a signal typed at the terminal to a shell that does not read
    its commands from it: a trap that ignores the signal keeps the shell
    and what it runs going, a trap that runs commands catches it, and
    without a trap the signal ends the program. -/
def trapped (t : TerminalProcess) (m : Shell.Machine) (n : Nat) : TerminalProcess :=
  match m.shell.trapOf n with
  | some action =>
    if action.isEmpty then t else advance { t with machine := some (m.catchTyped n) }
  | none => { t with machine := none, exitCode := some signalledExitCode }

/-- Delivers a signal sent from the terminal. A shell reading its commands
    from the terminal survives: an interrupt abandons what it runs, a quit
    ends the program it runs from the terminal, and it shows its prompt
    again. Any other program ends, as by a signal. A suspended program is
    taken to go on. -/
def deliver (t : TerminalProcess) (s : Tty.Signal) : TerminalProcess :=
  match t.machine with
  | none => t
  | some m =>
    match s with
    | .suspend => t
    | .interrupt =>
      if m.shell.interactive then advance { t with machine := some m.interrupted }
      else t.trapped m 2
    | .quit =>
      if m.shell.interactive then advance { t with machine := some m.quitProgram }
      else t.trapped m 3

/-- Types one byte at the terminal: it is echoed, and a signal it sends is
    delivered at once. -/
def typeByte (t : TerminalProcess) (b : UInt8) : TerminalProcess :=
  if t.exitCode.isSome then t
  else
    let k := t.editor.type t.echoes b
    let t := { t with editor := k.editor, output := t.output ++ (if t.echoes then k.echo else []) }
    match k.signal with
    | some s => t.deliver s
    | none => t

/-- Types input at the terminal: it is echoed and the program goes on. -/
def write (t : TerminalProcess) (bytes : List UInt8) : TerminalProcess :=
  if t.exitCode.isSome then t else advance (bytes.foldl typeByte t)

/-- Ends the program by a signal, unless it has already ended. -/
def kill (t : TerminalProcess) : TerminalProcess :=
  if t.exitCode.isSome then t else { t with machine := none, exitCode := some signalledExitCode }

/-- Takes what the terminal shows. -/
def drain (t : TerminalProcess) : List UInt8 × TerminalProcess := (t.output, { t with output := [] })

/-- The pseudo-terminal of a system whose files are `fs`, running these
    programs. -/
def pty (fs : FileSystem) : Pty TerminalProcess where
  spawn := spawn fs
  write := write
  drain := drain
  exitCode := exitCode
  kill := kill

end TerminalProcess

end ReplHost
