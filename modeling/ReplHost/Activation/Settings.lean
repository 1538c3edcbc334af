/-! # Settings of the activation controller

  The controller names new consoles after a base title, may start a console
  when the container is shown empty, and may hide the container once its last
  console is closed.
-/

namespace ReplHost

/-- The base name of consoles when none is configured. -/
def defaultTitle : String := "Rust REPL"

/-- What the activation controller is told. -/
structure ActivationSettings where
  /-- The base display name of new consoles. -/
  title : String := defaultTitle
  /-- Start a console when the container is shown with none. -/
  autoRespawn : Bool := true
  /-- Hide the container when its last console is closed. -/
  hideWhenEmpty : Bool := true
  deriving DecidableEq, Repr

end ReplHost
