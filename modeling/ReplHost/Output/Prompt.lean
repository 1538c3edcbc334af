/-! # Echo and prompt removal

  A pseudo-terminal echoes each submitted line back, and the console prints
  its prompt `>> ` after every evaluation. The host shows both itself, so a
  `PromptTracker` cleans each piece of decoded output:

  - carriage returns are removed;
  - after a line was submitted (`begin`), everything up to and including the
    first line feed is the echo and is dropped; a piece of output that comes
    before that line feed is dropped whole;
  - a last line equal to the prompt is removed, and marks the evaluation done.
-/

namespace ReplHost

/-- The prompt a console prints when it is ready for input. -/
def promptText : List Char := ['>', '>', ' ']

/-- Tracks whether the console is evaluating and whether its echo is gone. -/
structure PromptTracker where
  /-- A submitted line is still being evaluated. -/
  executing : Bool := false
  /-- The echo of the submitted line has been dropped. -/
  echoSkipped : Bool := false
  deriving DecidableEq, Repr

namespace PromptTracker

/-- Marks that a line was just submitted. -/
def begin (_ : PromptTracker) : PromptTracker := { executing := true, echoSkipped := false }

/-- What follows the first line feed, if there is one. -/
def afterNewline? (cs : List Char) : Option (List Char) :=
  match cs.dropWhile (· ≠ '\n') with
  | _ :: rest => some rest
  | [] => none

/-- The text after the last line feed. -/
def lastLine (cs : List Char) : List Char := (cs.reverse.takeWhile (· ≠ '\n')).reverse

/-- Removes a trailing prompt line; says whether there was one. -/
def dropPrompt (cs : List Char) : Bool × List Char :=
  if lastLine cs = promptText then (true, cs.take (cs.length - promptText.length))
  else (false, cs)

/-- Cleans one piece of decoded output. -/
def process (t : PromptTracker) (text : String) : PromptTracker × String :=
  let cs := text.toList.filter (· ≠ '\r')
  let echo : Option (PromptTracker × List Char) :=
    if t.executing && !t.echoSkipped then
      (afterNewline? cs).map fun rest => ({ t with echoSkipped := true }, rest)
    else some (t, cs)
  match echo with
  | none => (t, "")
  | some (t₁, rest) =>
    let (done, kept) := dropPrompt rest
    ((if done then { t₁ with executing := false } else t₁), String.ofList kept)

end PromptTracker

end ReplHost
