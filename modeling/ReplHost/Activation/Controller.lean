import ReplHost.Activation.Settings
import ReplHost.Session.Registry

/-! # The activation controller

  The controller owns the registry of the consoles it installs, knows its
  settings, and remembers whether it has bound itself to the container
  (subscribed to visibility changes). Binding happens once and is never
  undone.
-/

namespace ReplHost

/-- The activation controller's own state. -/
structure Controller where
  /-- The consoles it installed, by name. -/
  registry : Registry := {}
  /-- Its settings. -/
  settings : ActivationSettings := {}
  /-- Whether it has bound itself to the container. -/
  bound : Bool := false
  deriving Repr

/-- How the controller's phase is reported. -/
def Controller.phaseName (c : Controller) : String :=
  if c.bound then "Bound" else "Uninitialized"

end ReplHost
