import ReplHost.Output.Buffer

/-! # How a session treats its output

  A session keeps at most `bufferLimit` bytes of output while nothing shows
  it, may strip terminal escape sequences, and may report the exit code of
  its process when that ends.
-/

namespace ReplHost

/-- Output handling of one session. -/
structure OutputOptions where
  /-- Bytes kept while no sink is attached. -/
  bufferLimit : Nat := defaultBufferLimit
  /-- Strip escape sequences from process output. -/
  stripAnsi : Bool := true
  /-- Report the exit code when the process ends. -/
  reportExit : Bool := true
  deriving DecidableEq, Repr

end ReplHost
