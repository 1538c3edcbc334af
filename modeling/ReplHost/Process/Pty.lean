import ReplHost.Process.Spec

/-! # Programs behind a pseudo-terminal, as the host sees them

  The host starts a program behind a pseudo-terminal, types at it, takes
  what the terminal shows, reads the program's exit code and kills it.
  What the program does in between is its own affair: a `Pty T` gives the
  five operations over the states `T` a started program can be in. The
  host is defined for every such record, so what is proved of it holds
  whatever programs the terminal runs.
-/

namespace ReplHost

/-- A pseudo-terminal and the programs started behind it, whose states are
    `T`. -/
structure Pty (T : Type) where
  /-- Starts a program with an environment; the error says why it did not
      start. -/
  spawn : List (String × String) → LaunchSpec → Except String T
  /-- Types bytes at the terminal. -/
  write : T → List UInt8 → T
  /-- Takes what the terminal shows and the host has not taken yet. -/
  drain : T → List UInt8 × T
  /-- The exit code, once the program ended. -/
  exitCode : T → Option Int
  /-- Ends the program by a signal. -/
  kill : T → T

namespace Pty

/-- A system without pseudo-terminals: every start is refused. -/
def absent {T : Type} : Pty T where
  spawn _ _ := .error "no pseudo-terminal"
  write t _ := t
  drain t := ([], t)
  exitCode _ := none
  kill t := t

end Pty

end ReplHost
