import ReplHost.Shell.Utilities

/-! # Command-line options of the utilities

  The utilities read their options the common way:

  - an argument `--` ends the options, and `-` alone is an operand;
  - `-abc` is a group of one-letter options; an option that takes an
    argument takes the rest of its group, or else the next argument;
  - `--name`, `--name=value` and `--name value` are long options, and a
    long name may be shortened to any prefix that names only one option;
  - options and operands may come in any order.

  Reading stops at the first error, whose message `OptionError.message`
  gives without the program's name.
-/

namespace ReplHost.Shell

/-- How an option takes an argument. -/
inductive ArgKind where
  /-- It takes none. -/
  | none
  /-- It must have one. -/
  | required
  /-- It may have one, only in the same argument (`--name=value`). -/
  | optional
  deriving DecidableEq, Repr

/-- An option a utility knows: its letter and its long name (either may
    be missing), how it takes an argument, and the key the utility knows
    it by. -/
structure OptionSpec where
  letter : Option Char := none
  long : Option String := none
  arg : ArgKind := .none
  key : String
  deriving Repr

/-- An option as given: its key and its argument. -/
structure GivenOption where
  key : String
  value : Option String := none
  deriving DecidableEq, Repr

/-- Why the options could not be read. -/
inductive OptionError where
  | invalid (c : Char)
  | needsArgument (c : Char)
  | unrecognized (arg : String)
  | noArgumentAllowed (name : String)
  | longNeedsArgument (name : String)
  | ambiguous (arg : String) (names : List String)
  deriving DecidableEq, Repr

/-- The message of an option error. -/
def OptionError.message : OptionError → String
  | .invalid c => "invalid option -- '" ++ String.singleton c ++ "'"
  | .needsArgument c => "option requires an argument -- '" ++ String.singleton c ++ "'"
  | .unrecognized arg => "unrecognized option '" ++ arg ++ "'"
  | .noArgumentAllowed name => "option '--" ++ name ++ "' doesn't allow an argument"
  | .longNeedsArgument name => "option '--" ++ name ++ "' requires an argument"
  | .ambiguous arg names =>
    "option '" ++ arg ++ "' is ambiguous; possibilities:" ++
      String.join (names.map fun n => " '--" ++ n ++ "'")

/-- The option a long name given as `name` stands for: the one with that
    name, or the only one it begins; the error names what went wrong. -/
def findLong (specs : List OptionSpec) (arg name : String) : Except OptionError OptionSpec :=
  match specs.find? (·.long = some name) with
  | some s => .ok s
  | none =>
    let hits := specs.filter fun s => match s.long with
      | some l => name.isPrefixOf l
      | none => false
    match hits with
    | [] => .error (.unrecognized arg)
    | [s] => .ok s
    | s :: rest =>
      if rest.all (·.key = s.key) then .ok s
      else .error (.ambiguous arg (hits.filterMap (·.long)))

/-- Reads options and operands: the options in the order given, and the
    operands. -/
def readOptions (specs : List OptionSpec) : List String → Except OptionError (List GivenOption × List String)
  | [] => .ok ([], [])
  | a :: rest =>
    if a = "--" then .ok ([], rest)
    else
      match a.toList with
      | '-' :: '-' :: long => do
        let (name, inline) := match long.span (· ≠ '=') with
          | (n, '=' :: v) => (String.ofList n, some (String.ofList v))
          | (n, _) => (String.ofList n, none)
        let s ← findLong specs a name
        let full := s.long.getD name
        match s.arg, inline with
        | .none, some _ => .error (.noArgumentAllowed full)
        | .none, none => addTo { key := s.key } (readOptions specs rest)
        | .optional, v => addTo { key := s.key, value := v } (readOptions specs rest)
        | .required, some v => addTo { key := s.key, value := some v } (readOptions specs rest)
        | .required, none =>
          match rest with
          | v :: more => addTo { key := s.key, value := some v } (readOptions specs more)
          | [] => .error (.longNeedsArgument full)
      | '-' :: c :: cs => group c cs rest
      | _ => do
        let (opts, operands) ← readOptions specs rest
        pure (opts, a :: operands)
termination_by args => (args.length, 0)
where
  /-- Puts an option before those read after it. -/
  addTo (o : GivenOption) (r : Except OptionError (List GivenOption × List String)) :
      Except OptionError (List GivenOption × List String) :=
    r.map fun (opts, operands) => (o :: opts, operands)
  /-- Reads the group of one-letter options `c :: cs`, then the arguments
      after it. -/
  group (c : Char) (cs : List Char) (rest : List String) :
      Except OptionError (List GivenOption × List String) :=
    match specs.find? (·.letter = some c) with
    | none => .error (.invalid c)
    | some s =>
      match s.arg with
      | .none =>
        match cs with
        | [] => addTo { key := s.key } (readOptions specs rest)
        | d :: more => addTo { key := s.key } (group d more rest)
      | .optional =>
        addTo { key := s.key, value := if cs.isEmpty then none else some (String.ofList cs) }
          (readOptions specs rest)
      | .required =>
        if cs.isEmpty then
          match rest with
          | v :: more => addTo { key := s.key, value := some v } (readOptions specs more)
          | [] => .error (.needsArgument c)
        else addTo { key := s.key, value := some (String.ofList cs) } (readOptions specs rest)
  termination_by (rest.length, cs.length + 1)

/-- Whether an option was given. -/
def GivenOption.has (opts : List GivenOption) (key : String) : Bool := opts.any (·.key = key)

/-- The argument of the last time an option was given. -/
def GivenOption.last? (opts : List GivenOption) (key : String) : Option String :=
  (opts.filter (·.key = key)).getLast?.bind (·.value)

/-- The message of a usage error of `prog`, with the hint after it. -/
def usageText (prog msg : String) : String :=
  prog ++ ": " ++ msg ++ "\nTry '" ++ prog ++ " --help' for more information.\n"

end ReplHost.Shell
