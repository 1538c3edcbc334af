/-! # Lifecycle of a console session

  A session is created, runs its process, stops when the process ends or is
  stopped, and is finally disposed:

      created ──▶ running ──▶ terminated
         │           │            │
         └───────────┴────────────┴──▶ disposed

  `SessionState.allows a b` is that table. Disposed is the only state with no
  way out, and the only one `isTerminal` reports; running is the only state
  that accepts input.
-/

namespace ReplHost

/-- Lifecycle state of a console session. -/
inductive SessionState where
  /-- The session exists but its process has not been spawned. -/
  | created
  /-- The process is running and bound to the session's output. -/
  | running
  /-- The process exited or was stopped. -/
  | terminated
  /-- Resources are released; no further transition is possible. -/
  | disposed
  deriving DecidableEq, Repr, Inhabited

namespace SessionState

/-- The transitions a session may take. -/
def allows : SessionState → SessionState → Bool
  | created, running => true
  | running, terminated => true
  | created, disposed => true
  | running, disposed => true
  | terminated, disposed => true
  | _, _ => false

/-- Only a disposed session has no way out. -/
def isTerminal : SessionState → Bool
  | disposed => true
  | _ => false

/-- Only a running session accepts input. -/
def isRunning : SessionState → Bool
  | running => true
  | _ => false

/-- The name a state is shown by. -/
def name : SessionState → String
  | created => "Created"
  | running => "Running"
  | terminated => "Terminated"
  | disposed => "Disposed"

/-- Reads a state from its name. -/
def ofName? : String → Option SessionState
  | "Created" => some created
  | "Running" => some running
  | "Terminated" => some terminated
  | "Disposed" => some disposed
  | _ => none

theorem ofName?_name (s : SessionState) : ofName? s.name = some s := by
  cases s <;> rfl

theorem allows_terminal {s : SessionState} (h : s.isTerminal) (t : SessionState) :
    s.allows t = false := by
  cases s <;> cases t <;> simp_all [isTerminal, allows]

theorem allows_disposed_iff (s : SessionState) : s.allows disposed ↔ s ≠ disposed := by
  cases s <;> simp [allows]

end SessionState

end ReplHost
