/-! # What a console process is started with

  A `LaunchSpec` names the program, its arguments, the working directory
  (the host's own when unset), extra environment variables and the size of
  the terminal. Its command line, for logs and reports, is the program and
  the arguments joined by single spaces.
-/

namespace ReplHost

/-- The size of a terminal in character cells. -/
structure TermSize where
  /-- Height. -/
  rows : Nat := 24
  /-- Width. -/
  cols : Nat := 80
  deriving DecidableEq, Repr

/-- Everything needed to start one console process. -/
structure LaunchSpec where
  /-- The program to run. -/
  program : String
  /-- Its arguments. -/
  args : List String := []
  /-- The working directory; the host's own when unset. -/
  workingDir : Option String := none
  /-- Extra environment variables, each name once. -/
  env : List (String × String) := []
  /-- The terminal size. -/
  size : TermSize := {}
  deriving DecidableEq, Repr

namespace LaunchSpec

/-- A spec for `program` with no arguments. -/
def ofProgram (program : String) : LaunchSpec := { program := program }

/-- The command line: program and arguments joined by spaces. -/
def commandLine (s : LaunchSpec) : String := " ".intercalate (s.program :: s.args)

@[simp] theorem commandLine_nil (p : String) : ({ program := p } : LaunchSpec).commandLine = p := by
  simp [commandLine]

end LaunchSpec

end ReplHost
