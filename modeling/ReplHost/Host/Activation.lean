import ReplHost.Host.Lifecycle
import ReplHost.Session.Title

/-! # Registries, the container and the activation controller

  A registry holds at most one session per name: installing a session
  disposes a different one under the same name, and removing a name
  disposes its session.

  The container notifies its subscriber, the activation controller, of
  every change of visibility or content. The controller answers a
  notification by starting a new console when it may respawn, the host
  reports the container, and the container is shown with no entry.

  Binding a session installs it in the controller's registry, puts it into
  the entry of its name (a new entry with a new surface, or the existing
  one, whose different session is disposed), gives the entry the clean-up
  hook, routes the session's output to the entry's surface and selects the
  entry. The first bind also subscribes the controller to the container and
  makes the container hide itself when it becomes empty, if the settings
  ask for that. Launching names a new session after the settings' title and
  the entries there are, starts it (disposing it if that fails) and binds
  it.

  When the host closes an entry, the hook stops its session's process and
  disposes the session, removing it from the controller's registry if it
  is the session registered under the entry's name.

  A new console can cause a notification, which cannot cause another
  console since the container is no longer empty; respawning is therefore
  given a small depth, `respawnDepth`, and each operation that notifies
  takes the respawning action as a parameter.
-/

namespace ReplHost

variable {T : Type}

/-- Which registry an operation addresses. -/
inductive RegistryChoice where
  /-- The registry of the host's own. -/
  | own
  /-- The controller's registry. -/
  | controller
  deriving DecidableEq, Repr

namespace Host

/-! ### Registries -/

/-- A registry; the controller's is gone once the controller is dropped. -/
def registryOf (h : Host T) : RegistryChoice → Option Registry
  | .own => some h.registry
  | .controller => h.controller.map (·.registry)

/-- Replaces a registry. -/
def setRegistry (h : Host T) : RegistryChoice → Registry → Host T
  | .own, g => { h with registry := g }
  | .controller, g => { h with controller := h.controller.map fun c => { c with registry := g } }

/-- Installs a session under its name; a different session registered under
    that name is disposed. -/
def install (h : Host T) (which : RegistryChoice) (s : Nat) : Host T :=
  match h.registryOf which, h.session? s with
  | some g, some x =>
    let h := match g.find? x.name with
      | some prev => if prev ≠ s then h.dispose prev else h
      | none => h
    h.setRegistry which (g.set x.name s)
  | _, _ => h

/-- Removes the session registered under a name and disposes it. -/
def removeFrom (h : Host T) (which : RegistryChoice) (name : String) : Host T × Option Nat :=
  match h.registryOf which with
  | some g =>
    match g.find? name with
    | some s => ((h.setRegistry which (g.erase name)).dispose s, some s)
    | none => (h, none)
  | none => (h, none)

/-- Removes and disposes the registered sessions a predicate holds of;
    returns how many. The predicate is read on the sessions as they are
    when the call begins. -/
def removeMatching (h : Host T) (which : RegistryChoice) (hit : Nat → Bool) : Host T × Nat :=
  match h.registryOf which with
  | some g =>
    let gone := g.items.filter (hit ·.2)
    let h' := h.setRegistry which { items := g.items.filter (fun item => !hit item.2) }
    (gone.foldl (fun h item => h.dispose item.2) h', gone.length)
  | none => (h, 0)

/-! ### Entries -/

/-- Changes the entry that renders into a surface. -/
def setEntry (h : Host T) (k : Nat) (f : Entry → Entry) : Host T :=
  { h with container := { h.container with
      entries := h.container.entries.map fun e => if e.surface = k then f e else e } }

/-- The clean-up hook of an entry, when it has one: stops the session's
    process and disposes the session, through the controller's registry if
    it is registered there under the entry's name. -/
def runHook (h : Host T) (e : Entry) : Host T :=
  if !e.hooked then h
  else
    match e.session with
    | none => h
    | some s =>
      let h := (h.terminate s).1
      match h.controller with
      | none => h.dispose s
      | some c =>
        if c.registry.find? e.name = some s then (h.removeFrom .controller e.name).1
        else h.dispose s

/-- Disposes the entry that renders into a surface, leaving it in place:
    its hook runs once, then it lets go of its session. -/
def disposeEntry (h : Host T) (k : Nat) : Host T :=
  match h.container.entries.find? (·.surface = k) with
  | none => h
  | some e =>
    let h := h.setEntry k fun e => { e with hooked := false }
    let h := h.runHook e
    h.setEntry k fun e => { e with session := none }

/-- Binds a session into the first entry of a name; returns the session it
    had, or nothing when there is no such entry. -/
def entryBind (h : Host T) (name : String) (s : Nat) : Option (Host T × Option Nat) :=
  (h.container.find? name).map fun e =>
    (h.setEntry e.surface fun e => { e with session := some s }, e.session)

/-! ### Notifications -/

/-- Whether a notification makes the controller start a console. -/
def respawnWanted (h : Host T) : Bool :=
  h.container.subscriptions > 0 &&
    match h.controller with
    | some c => c.settings.autoRespawn && h.bridged && h.container.visible && h.container.entries.isEmpty
    | none => false

/-- Notifies the subscriber, which may respawn. -/
def notifyWith (respawn : Host T → Host T) (h : Host T) : Host T :=
  if h.respawnWanted then respawn h else h

/-- Adds an entry with a new surface and notifies; returns its surface. -/
def addEntry (respawn : Host T → Host T) (h : Host T) (name : String) (session : Option Nat) :
    Host T × Nat :=
  let (h, k) := h.createSurface name
  let h := { h with container := { h.container with
    entries := h.container.entries ++ [{ name := name, surface := k, session := session }] } }
  (notifyWith respawn h, k)

/-- Disposes an entry the container no longer holds: its hook runs once,
    then it lets go of its session. Returns the entry as it is left. -/
def disposeDetached (h : Host T) (e : Entry) : Host T × Entry :=
  (h.runHook e, { e with hooked := false, session := none })

/-- Removes the first entry of a name, disposes it and notifies; returns
    the removed entry, if there was one. -/
def removeEntry (respawn : Host T → Host T) (h : Host T) (name : String) : Host T × Option Entry :=
  match h.container.remove? name with
  | none => (h, none)
  | some (e, c) =>
    let (h, e) := disposeDetached { h with container := c } e
    (notifyWith respawn h, some e)

/-- Shows or hides the container and notifies. -/
def setVisible (respawn : Host T → Host T) (h : Host T) (on : Bool) : Host T :=
  notifyWith respawn { h with container := { h.container with visible := on } }

/-! ### The controller -/

/-- Puts a session into the entry of its name, as binding does; returns the
    entry's name. -/
def installContent (respawn : Host T → Host T) (h : Host T) (s : Nat) : Host T × String :=
  let h := h.install .controller s
  let name := ((h.session? s).map (·.name)).getD ""
  let (h, k) := match h.container.find? name with
    | some e =>
      let h := h.setEntry e.surface fun e => { e with session := some s }
      let h := match e.session with
        | some p => if p ≠ s then h.dispose p else h
        | none => h
      (h, e.surface)
    | none => addEntry respawn h name (some s)
  let h := h.setEntry k fun e => { e with hooked := true }
  let h := h.attach s k
  ({ h with container := { h.container with selected := some name } }, name)

/-- Binds a session into the container; the first bind also subscribes the
    controller. Returns the entry's name. -/
def bind (respawn : Host T → Host T) (h : Host T) (s : Nat) : Host T × String :=
  let (h, name) := installContent respawn h s
  match h.controller with
  | some c =>
    if c.bound then (h, name)
    else
      let autoHide := c.settings.hideWhenEmpty || h.container.autoHide
      ({ h with
          container := { h.container with autoHide := autoHide,
                                          subscriptions := h.container.subscriptions + 1 },
          controller := some { c with bound := true } }, name)
  | none => (h, name)

/-- The name the next console gets. -/
def nextName (h : Host T) : String :=
  let title := ((h.controller.map (·.settings.title)).getD defaultTitle)
  Title.next title (h.container.entries.map (·.name))

/-- Creates, starts and binds a new console; returns its session. -/
def launchInto (respawn : Host T → Host T) (h : Host T) : Host T × Except Failure Nat :=
  if h.factory.panicNext then
    ({ h with factory := { h.factory with panicNext := false } }, .error (.panic factoryFailure))
  else
    let (h, s) := h.addSession (Session.create h.nextName h.factory.spec h.factory.options)
    match h.start s (fun h => (h, ())) with
    | (h, _, .error e) => (h.dispose s, .error (.error e))
    | (h, _, .ok ()) => ((bind respawn h s).1, .ok s)

/-- Respawning, allowed to nest `depth` times. -/
def respawner : Nat → Host T → Host T
  | 0 => fun h => h
  | depth + 1 => fun h => (launchInto (respawner depth) h).1

/-- How deep respawning may nest; one level is all it can use. -/
def respawnDepth : Nat := 3

/-- Respawning as the controller does it. -/
def respawn : Host T → Host T := respawner respawnDepth

/-- Binds a session into the container the host reports. -/
def showSession (h : Host T) (s : Nat) : Host T × Except HostError String :=
  if h.bridged then let (h, name) := bind respawn h s; (h, .ok name)
  else (h, .error .containerUnavailable)

/-- Launches a new console into the container the host reports. -/
def launchNew (h : Host T) : Host T × Except Failure Nat :=
  if h.bridged then launchInto respawn h else (h, .error (.error .containerUnavailable))

/-- The session of the selected entry. -/
def selectedSession (h : Host T) : Option Nat :=
  if h.bridged then h.container.selectedEntry?.bind (·.session) else none

/-- The sessions of all entries, in entry order. -/
def allSessions (h : Host T) : List Nat :=
  if h.bridged then h.container.entries.filterMap (·.session) else []

/-- The name the next console would get, when the host reports the container. -/
def nextTitle? (h : Host T) : Option String := if h.bridged then some h.nextName else none

end Host

end ReplHost
