/-! # The terminal line discipline

  Between a console program and the host sits a pseudo-terminal in its
  default cooked mode.

  Output: every line feed the program writes is shown as carriage return and
  line feed.

  Input is collected into lines that the program reads whole:

  - a carriage return typed counts as a line feed, which ends the line;
  - `^D` ends the line without a line feed; at the start of a line the
    program reads that as the end of its input;
  - delete erases the last byte, `^U` the whole line, `^W` the last word
    (and the blanks after it); `^R` shows the line again, `^V` takes the
    next byte as it is; `^S` and `^Q` pause and resume output and are
    dropped;
  - `^C`, `^\` and `^Z` send the program the interrupt, quit and suspend
    signals and throw away all input not read yet;
  - a line keeps at most 4095 bytes before its line feed.

  What is typed is echoed: a line feed as carriage return and line feed,
  other control characters except tab as `^X`; an erased byte is rubbed out
  with backspace, space, backspace (twice for a control character, which
  took two columns; a tab is backed over by as many columns as it took).
-/

namespace ReplHost.Tty

/-- Output processing: line feeds become carriage return and line feed. -/
def cookOutput (bytes : List UInt8) : List UInt8 :=
  bytes.flatMap fun b => if b = 0x0A then [0x0D, 0x0A] else [b]

/-- The interrupt character, `^C`. -/
def interruptChar : UInt8 := 0x03
/-- The quit character, `^\`. -/
def quitChar : UInt8 := 0x1C
/-- The suspend character, `^Z`. -/
def suspendChar : UInt8 := 0x1A
/-- The erase character, delete. -/
def eraseChar : UInt8 := 0x7F
/-- The line kill character, `^U`. -/
def killChar : UInt8 := 0x15
/-- The word erase character, `^W`. -/
def wordEraseChar : UInt8 := 0x17
/-- The end-of-file character, `^D`. -/
def eofChar : UInt8 := 0x04
/-- The reprint character, `^R`. -/
def reprintChar : UInt8 := 0x12
/-- The literal-next character, `^V`. -/
def literalNextChar : UInt8 := 0x16
/-- The output stop character, `^S`. -/
def stopChar : UInt8 := 0x13
/-- The output start character, `^Q`. -/
def startChar : UInt8 := 0x11

/-- The most bytes a line keeps before its line feed. -/
def lineLimit : Nat := 4095

/-- Whether a byte is a control character: below space, or delete. -/
def isControl (b : UInt8) : Bool := b < 0x20 || b = 0x7F

/-- Whether a byte is a letter or digit of the terminal's character set
    (Latin-1), or `_`: the bytes a word is made of. -/
def isWordByte (b : UInt8) : Bool :=
  (0x30 ≤ b && b ≤ 0x39) || (0x41 ≤ b && b ≤ 0x5A) || (0x61 ≤ b && b ≤ 0x7A) || b = 0x5F ||
    (0xC0 ≤ b && b ≠ 0xD7 && b ≠ 0xF7)

/-- The echo of a byte kept in a line: a control character other than tab
    as `^X`, any other byte as itself. -/
def echoOf (b : UInt8) : List UInt8 :=
  if isControl b && b ≠ 0x09 then [0x5E, b ^^^ 0x40] else [b]

/-- Rubs out one column. -/
def rubOut : List UInt8 := [0x08, 0x20, 0x08]

/-- The columns taken by the bytes of a line after its last tab, and
    whether there is such a tab. -/
def columnsSinceTab (before : List UInt8) : Nat × Bool :=
  let after := before.reverse.takeWhile (· ≠ 0x09)
  let cols := after.foldl (fun n b => n + if isControl b then 2 else 1) 0
  (cols, after.length < before.length)

/-- The echo that erases byte `b` from the end of a line whose other bytes
    are `before`. -/
def eraseEcho (before : List UInt8) (b : UInt8) : List UInt8 :=
  if b = 0x09 then
    let (cols, _) := columnsSinceTab before
    List.replicate (8 - cols % 8) 0x08
  else if isControl b then rubOut ++ rubOut
  else rubOut

/-- Typed input being collected into lines. -/
structure LineEditor where
  /-- The pieces typed and not read yet, oldest first: lines ending in a
      line feed, and pieces ended by `^D` (an empty one reads as the end of
      the input). -/
  lines : List (List UInt8) := []
  /-- The line being typed. -/
  current : List UInt8 := []
  /-- Whether the next byte is taken as it is. -/
  literal : Bool := false
  deriving DecidableEq, Repr

/-- A signal the terminal sends to the program it runs. -/
inductive Signal where
  /-- `^C`. -/
  | interrupt
  /-- `^\`. -/
  | quit
  /-- `^Z`. -/
  | suspend
  deriving DecidableEq, Repr

/-- What typing one byte did: the editor afterwards, the echo shown and the
    signal sent, if any. -/
structure Keystroke where
  editor : LineEditor
  echo : List UInt8
  signal : Option Signal := none

namespace LineEditor

/-- Keeps a byte in the line; once the line is full, the byte takes the
    place of the last one. -/
def keep (e : LineEditor) (b : UInt8) : LineEditor :=
  if e.current.length ≤ lineLimit then { e with current := e.current ++ [b] }
  else { e with current := e.current.dropLast ++ [b] }

/-- Ends the line being typed with `tail` (a line feed, or nothing for
    `^D`). -/
def endLine (e : LineEditor) (tail : List UInt8) : LineEditor :=
  { e with lines := e.lines ++ [e.current.take lineLimit ++ tail], current := [] }

/-- Erases bytes from the end of the line: one (`word` false, `all`
    false), the whole line (`all`), or the last word with the blanks after
    it (`word`); with the echo that rubs them out. `seen` says whether a
    byte of the word has been erased. -/
def eraseFrom (word all seen : Bool) : List UInt8 → (fuel : Nat) → List UInt8 × List UInt8
  | cs, 0 => (cs, [])
  | cs, fuel + 1 =>
    match cs.getLast? with
    | none => (cs, [])
    | some b =>
      if word && !isWordByte b && seen then (cs, [])
      else
        let before := cs.dropLast
        let echo := eraseEcho before b
        if word || all then
          let (rest, more) := eraseFrom word all (seen || isWordByte b) before fuel
          (rest, echo ++ more)
        else (before, echo)

/-- Types one byte; `echoOn` tells whether the terminal echoes, which
    decides whether `^R` is special. -/
def type (e : LineEditor) (echoOn : Bool) (b : UInt8) : Keystroke :=
  if e.literal then
    { editor := { e with literal := false }.keep b, echo := echoOf b }
  else if b = stopChar || b = startChar then { editor := e, echo := [] }
  else if b = interruptChar then { editor := {}, echo := echoOf b, signal := some .interrupt }
  else if b = quitChar then { editor := {}, echo := echoOf b, signal := some .quit }
  else if b = suspendChar then { editor := {}, echo := echoOf b, signal := some .suspend }
  else
    let b := if b = 0x0D then 0x0A else b
    if b = eraseChar || b = killChar || b = wordEraseChar then
      let (rest, echo) := eraseFrom (b = wordEraseChar) (b = killChar) false e.current
        (e.current.length + 1)
      { editor := { e with current := rest }, echo := echo }
    else if b = literalNextChar then
      { editor := { e with literal := true }, echo := [0x5E, 0x08] }
    else if b = reprintChar && echoOn then
      { editor := e, echo := echoOf b ++ [0x0D, 0x0A] ++ e.current.flatMap echoOf }
    else if b = 0x0A then { editor := e.endLine [0x0A], echo := [0x0D, 0x0A] }
    else if b = eofChar then { editor := e.endLine [], echo := [] }
    else { editor := e.keep b, echo := echoOf b }

end LineEditor

end ReplHost.Tty
