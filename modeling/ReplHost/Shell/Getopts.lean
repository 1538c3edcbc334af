/-! # `getopts`

  `getopts OPTSTRING VAR [ARG…]` reads one option a call from the
  arguments given, or else from the positional parameters. The shell keeps
  where it is between calls: the index of the next argument, counted from
  1 (what `OPTIND` shows), and, within a group of letters such as `-abc`,
  the place of the next letter.

  - Options are arguments that start with `-` and have more after it;
    reading stops at the first other argument, and after `--`, which is
    passed over.
  - A letter followed by `:` in OPTSTRING takes an argument: the rest of
    its group, or else the next argument.
  - A letter not in OPTSTRING, and a missing argument, are errors: the
    variable is set to `?`, `OPTARG` is unset and a message written. When
    OPTSTRING starts with `:` the errors are silent: `OPTARG` is the
    letter, and the variable is `?`, or `:` for a missing argument.
  - At the end the variable is `?` and the status 1.
-/

namespace ReplHost.Shell

/-- Where `getopts` goes on from: the index of the next argument, counted
    from 1, and within a group of option letters the place of the next one
    in the argument before that index. -/
structure OptCursor where
  index : Nat := 1
  offset : Option Nat := none
  deriving DecidableEq, Repr

/-- What one call of `getopts` found. -/
structure OptFound where
  /-- What the variable is set to: the letter, `?`, or `:`. -/
  letter : Char
  /-- What happens to `OPTARG`: nothing (`none`), unset (`some none`), or
      set to a value. -/
  optarg : Option (Option String) := none
  /-- The message written, if any. -/
  message : Option String := none
  /-- Whether the options have ended. -/
  done : Bool := false
  /-- Where the next call goes on from. -/
  cursor : OptCursor

/-- Whether a letter is an option of OPTSTRING, and if so whether it takes
    an argument. A `:` after a letter marks the argument and is no option
    itself; a `:` first, or one after such a mark, is compared like a
    letter. -/
def optionSpec (c : Char) : List Char → Option Bool
  | [] => none
  | [q] => if q = c then some false else none
  | q :: ':' :: more => if q = c then some true else optionSpec c more
  | q :: r :: more => if q = c then some false else optionSpec c (r :: more)

/-- One call of `getopts` with OPTSTRING `spec` over the arguments `args`,
    from `cursor`. -/
def getoptsStep (spec : String) (args : Array String) (cursor : OptCursor) : OptFound :=
  let silent := spec.toList.head? = some ':'
  let next := cursor.index - 1
  -- The rest of the group of letters the last call stopped in.
  let resumed : Option (String × Nat) :=
    if cursor.index ≤ 1 then none
    else
      match cursor.offset, args[next - 1]? with
      | some off, some w => if off < w.length then some (w, off) else none
      | _, _ => none
  let start : Option (String × Nat × Nat) :=
    match resumed with
    | some (w, off) => some (w, off, next)
    | none =>
      match args[next]? with
      | some w =>
        match w.toList with
        | '-' :: _ :: _ => if w = "--" then none else some (w, 1, next + 1)
        | _ => none
      | none => none
  match start with
  | none =>
    let after := if args[next]? = some "--" then next + 1 else next
    { letter := '?', done := true, cursor := { index := after + 1 } }
  | some (w, pos, next) =>
    let c := w.toList.getD pos ' '
    let rest := String.ofList (w.toList.drop (pos + 1))
    let within : OptCursor := { index := next + 1, offset := some (pos + 1) }
    let letter := String.singleton c
    match optionSpec c spec.toList with
    | none =>
      if silent then { letter := '?', optarg := some (some letter), cursor := within }
      else
        { letter := '?', optarg := some none, message := some ("Illegal option -" ++ letter),
          cursor := within }
    | some false => { letter := c, optarg := some (some ""), cursor := within }
    | some true =>
      if !rest.isEmpty then { letter := c, optarg := some (some rest), cursor := { index := next + 1 } }
      else
        match args[next]? with
        | some a => { letter := c, optarg := some (some a), cursor := { index := next + 2 } }
        | none =>
          if silent then { letter := ':', optarg := some (some letter), cursor := within }
          else
            { letter := '?', optarg := some none, message := some ("No arg for -" ++ letter ++ " option"),
              cursor := within }

/-- The cursor a call starts from: back at the start when it has gone past
    the end of the arguments, as after reading other ones. -/
def OptCursor.within (cursor : OptCursor) (count : Nat) : OptCursor :=
  if cursor.index > count + 1 then {} else cursor

end ReplHost.Shell
