import ReplHost.Output.Chunk

/-! # The host container

  The host shows consoles as *entries* of one container (a tool window).
  Entries are kept in the order they were added; each has a display name, a
  surface it renders into, maybe a session, and maybe the hook that the
  activation controller installs to clean up when the host closes the
  entry. One entry name is selected. The container may be visible, may hide
  itself when its last entry closes, and notifies its subscribers of every
  change of visibility or content.

  A `Surface` is a rendering surface kept in memory: the pieces of output
  written to it, in order.
-/

namespace ReplHost

/-- A rendering surface that records what it is given. -/
structure Surface where
  /-- The pieces written, oldest first. -/
  chunks : List Chunk := []
  deriving Repr

namespace Surface

/-- Records a piece of output. -/
def write (s : Surface) (text : String) (kind : OutputKind) : Surface :=
  { chunks := s.chunks ++ [⟨text, kind⟩] }

/-- All text written, of every kind. -/
def contents (s : Surface) : String := String.join (s.chunks.map (·.text))

end Surface

/-- A slot of the container. -/
structure Entry where
  /-- The label shown. -/
  name : String
  /-- The surface it renders into, by reference. -/
  surface : Nat
  /-- The session shown, by reference. -/
  session : Option Nat := none
  /-- Whether the controller's clean-up hook is installed. -/
  hooked : Bool := false
  deriving DecidableEq, Repr

/-- The diagnostic text of an entry; session identifiers are not shown. -/
def Entry.describe (e : Entry) (quote : String → String) : String :=
  "Entry \x7b display_name: " ++ quote e.name ++ ", session: " ++
    (if e.session.isSome then "Some(SessionId(_))" else "None") ++ ", .. \x7d"

/-- The container of console entries. -/
structure Container where
  /-- Entries in display order. -/
  entries : List Entry := []
  /-- The selected entry's name. -/
  selected : Option String := none
  /-- Whether the container is shown. -/
  visible : Bool := false
  /-- Whether it hides itself when its last entry closes. -/
  autoHide : Bool := false
  /-- The number of visibility subscriptions. -/
  subscriptions : Nat := 0
  deriving Repr

namespace Container

/-- The first entry with a name. -/
def find? (c : Container) (name : String) : Option Entry := c.entries.find? (·.name = name)

/-- Changes the first entry with a name. -/
def modifyFirst (c : Container) (name : String) (f : Entry → Entry) : Container :=
  let rec go : List Entry → List Entry
    | [] => []
    | e :: es => if e.name = name then f e :: es else e :: go es
  { c with entries := go c.entries }

/-- Removes the first entry with a name: the selection moves to the last
    entry if it was on the removed one, and the container hides itself when
    it becomes empty and hides automatically. -/
def remove? (c : Container) (name : String) : Option (Entry × Container) :=
  match c.entries.findIdx? (·.name = name) with
  | none => none
  | some i =>
    match c.entries[i]? with
    | none => none
    | some e =>
      let entries := c.entries.eraseIdx i
      let selected :=
        if c.selected = some name then (entries.getLast?.map (·.name)) else c.selected
      let visible := if entries.isEmpty && c.autoHide then false else c.visible
      some (e, { c with entries := entries, selected := selected, visible := visible })

/-- The selected entry, if it still exists. -/
def selectedEntry? (c : Container) : Option Entry := c.selected.bind c.find?

end Container

end ReplHost
