import ReplHost.Os.Errno
import ReplHost.Session.State
import ReplHost.Text.Quoted

/-! # Errors of the console host

  `HostError` lists the causes an operation of the host can fail with. Its
  wording lives in `HostError.message`; `HostError.describe` is the
  structural form a diagnostic prints, and `HostError.cause?` the message of
  the underlying failure, which only an input/output error has.

  `IoError` is an input/output failure: one the operating system reported by
  number, one known only by its kind, or one with a kind and a text of its own.
-/

namespace ReplHost

/-- An input/output failure. -/
inductive IoError where
  /-- A failure the operating system reported by error number. -/
  | os (code : Int)
  /-- A failure known only by its kind. -/
  | simple (kind : IoErrorKind)
  /-- A failure with a kind and a text of its own. -/
  | custom (kind : IoErrorKind) (text : String)
  deriving DecidableEq, Repr

namespace IoError

/-- The kind of a failure. -/
def kind : IoError → IoErrorKind
  | os code => Errno.kind code
  | simple k => k
  | custom k _ => k

/-- The message of a failure. -/
def message : IoError → String
  | os code => Errno.message code ++ " (os error " ++ Decimal.renderInt code ++ ")"
  | simple k => k.describe
  | custom _ text => text

/-- The structural form of a failure in a diagnostic. -/
def describe : IoError → String
  | os code =>
    "Os \x7b code: " ++ Decimal.renderInt code ++ ", kind: " ++ (Errno.kind code).name ++
      ", message: " ++ Text.quote (Errno.message code) ++ " \x7d"
  | simple k => "Kind(" ++ k.name ++ ")"
  | custom k text => "Custom \x7b kind: " ++ k.name ++ ", error: " ++ Text.quote text ++ " \x7d"

end IoError

/-- Why an operation of the console host failed. -/
inductive HostError where
  /-- The console process could not be spawned. -/
  | sessionStart (detail : String)
  /-- A lifecycle transition outside `SessionState.allows` was attempted. -/
  | invalidTransition (source target : SessionState)
  /-- The session was disposed before or during the operation. -/
  | sessionDisposed
  /-- A start was requested while another start is still in flight. -/
  | alreadyStarting
  /-- The operation needs a running session. -/
  | notRunning (state : SessionState)
  /-- Input was submitted to a console that cannot accept it. -/
  | consoleNotEnabled
  /-- The host has not created the console container yet. -/
  | containerUnavailable
  /-- The pseudo-terminal failed. -/
  | pty (detail : String)
  /-- An input/output failure. -/
  | io (cause : IoError)
  /-- An internal lock was poisoned. -/
  | lockPoisoned
  deriving DecidableEq, Repr

namespace HostError

/-- The name of the cause, as answers report it. -/
def tag : HostError → String
  | sessionStart _ => "SessionStart"
  | invalidTransition _ _ => "InvalidStateTransition"
  | sessionDisposed => "SessionDisposed"
  | alreadyStarting => "AlreadyStarting"
  | notRunning _ => "NotRunning"
  | consoleNotEnabled => "ConsoleNotEnabled"
  | containerUnavailable => "ContainerUnavailable"
  | pty _ => "Pty"
  | io _ => "Io"
  | lockPoisoned => "LockPoisoned"

/-- The message shown to a user. -/
def message : HostError → String
  | sessionStart d => "failed to start console session: " ++ d
  | invalidTransition a b => "invalid state transition from " ++ a.name ++ " to " ++ b.name
  | sessionDisposed => "session disposed"
  | alreadyStarting => "session is already starting"
  | notRunning s => "session not running: current state is " ++ s.name
  | consoleNotEnabled => "Console is not enabled."
  | containerUnavailable => "host container unavailable"
  | pty d => "PTY error: " ++ d
  | io e => "I/O error: " ++ e.message
  | lockPoisoned => "internal lock poisoned"

/-- The structural form a diagnostic prints. -/
def describe : HostError → String
  | sessionStart d => "SessionStart(" ++ Text.quote d ++ ")"
  | invalidTransition a b =>
    "InvalidStateTransition \x7b from: " ++ a.name ++ ", to: " ++ b.name ++ " \x7d"
  | notRunning s => "NotRunning(" ++ s.name ++ ")"
  | pty d => "Pty(" ++ Text.quote d ++ ")"
  | io e => "Io(" ++ e.describe ++ ")"
  | e => e.tag

/-- The message of the underlying failure, if there is one. -/
def cause? : HostError → Option String
  | io e => some e.message
  | _ => none

end HostError

end ReplHost
