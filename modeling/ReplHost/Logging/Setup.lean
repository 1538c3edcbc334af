import ReplHost.Logging.Filter

/-! # Installing the log subscriber

  A process has at most one log subscriber, installed by the first
  successful call; later calls find it in place. `init` and `tryInit` take
  their filter from the `RUST_LOG` variable when that parses, and otherwise
  allow `info` and more severe events of the host's own target; `init`
  fails loudly when a subscriber exists, `tryInit` reports it.
  `initWithFilter` scopes a bare lowercase level to the host's target and
  passes any other text through, falling back to the same default.
-/

namespace ReplHost.Logging

/-- The host's own log target. -/
def hostTarget : String := "console_host"

/-- The filter used when none is given or the given one does not parse. -/
def defaultFilterText : String := hostTarget ++ "=info"

/-- The default filter, parsed. -/
def defaultFilter : Filter := ((Filter.parse? defaultFilterText).getD ⟨[]⟩)

/-- A filter text, or the default when it does not parse. -/
def filterOrDefault (s : String) : Filter := (Filter.parse? s).getD defaultFilter

/-- The filter taken from the environment variable, if set. -/
def envFilter (envDirective : Option String) : Filter :=
  match envDirective with
  | some s => filterOrDefault s
  | none => defaultFilter

/-- The filter `initWithFilter` installs for a directive. -/
def scopedFilter (directive : String) : Filter :=
  if ["error", "warn", "info", "debug", "trace"].contains directive then
    filterOrDefault (hostTarget ++ "=" ++ directive)
  else filterOrDefault directive

/-- A request to install the subscriber. -/
inductive Call where
  /-- Install, failing loudly if a subscriber exists. -/
  | init
  /-- Install, reporting if a subscriber exists. -/
  | tryInit
  /-- Install with an explicit filter, reporting if a subscriber exists. -/
  | withFilter (directive : String)
  deriving DecidableEq, Repr

/-- What a call came to. -/
inductive Outcome where
  /-- The subscriber was installed. -/
  | installed
  /-- A subscriber existed; the call said so. -/
  | refused
  /-- A subscriber existed; the call failed loudly. -/
  | panicked
  deriving DecidableEq, Repr

/-- Runs one call with the installed filter, if any. -/
def Call.run (envDirective : Option String) (current : Option Filter) : Call → Outcome × Option Filter
  | .init =>
    match current with
    | some f => (.panicked, some f)
    | none => (.installed, some (envFilter envDirective))
  | .tryInit =>
    match current with
    | some f => (.refused, some f)
    | none => (.installed, some (envFilter envDirective))
  | .withFilter d =>
    match current with
    | some f => (.refused, some f)
    | none => (.installed, some (scopedFilter d))

/-- Runs calls in order from no subscriber: their outcomes and the filter
    in place at the end. -/
def runCalls (envDirective : Option String) (calls : List Call) : List Outcome × Option Filter :=
  let step := fun (acc : List Outcome × Option Filter) (c : Call) =>
    let (o, f) := c.run envDirective acc.2
    (o :: acc.1, f)
  let (outs, f) := calls.foldl step ([], none)
  (outs.reverse, f)

/-- Whether an event is allowed with the filter in place; nothing is
    allowed without a subscriber. -/
def allowed (current : Option Filter) (target : String) (level : Level) : Bool :=
  match current with
  | some f => f.allows target level
  | none => false

end ReplHost.Logging
