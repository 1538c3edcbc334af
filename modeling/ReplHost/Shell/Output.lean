import ReplHost.Error
import ReplHost.Shell.Options
import ReplHost.Shell.Quoting

/-! # What a utility writes, in order

  A utility writes to standard output and to standard error as it goes.
  `Output` keeps the writes in order, so that both streams can be taken
  apart (when they go to different places) or together as a terminal
  shows them. On a terminal, standard output is written a line at a time
  and standard error at once: the terminal shows the output up to its last
  line feed before each message, and the rest at the end.

  A utility that reads files reads them through a `Reader`, which gives a
  file's bytes or the error the system reports for it.
-/

namespace ReplHost.Shell

/-- One write of a utility. -/
inductive Write where
  /-- Bytes to standard output. -/
  | out (bytes : List UInt8)
  /-- Bytes to standard error. -/
  | err (bytes : List UInt8)
  /-- Standard output is written out now, to its last byte. -/
  | flush
  deriving DecidableEq, Repr

/-- The writes of a utility so far, last first. -/
structure Output where
  writes : List Write := []
  deriving DecidableEq, Repr

namespace Output

/-- Writes bytes to standard output. -/
def put (o : Output) (bytes : List UInt8) : Output :=
  if bytes.isEmpty then o else ⟨.out bytes :: o.writes⟩

/-- Writes text to standard output. -/
def say (o : Output) (text : String) : Output := o.put (bytesOf text)

/-- Writes standard output out now, as a utility that writes without a
    buffer does. -/
def flush (o : Output) : Output := ⟨.flush :: o.writes⟩

/-- Writes text to standard error. -/
def complain (o : Output) (text : String) : Output :=
  if text.isEmpty then o else ⟨.err (bytesOf text) :: o.writes⟩

/-- All that went to standard output. -/
def stdout (o : Output) : List UInt8 :=
  o.writes.foldl (fun acc w => match w with
    | .out bs => bs ++ acc
    | _ => acc) []

/-- All that went to standard error. -/
def stderr (o : Output) : List UInt8 :=
  o.writes.foldl (fun acc w => match w with
    | .err bs => bs ++ acc
    | _ => acc) []

/-- What a terminal shows of both streams. The shown bytes and the output
    held back are kept last byte first. -/
def shown (o : Output) : List UInt8 :=
  let (seen, held) := o.writes.reverse.foldl (fun (acc : List UInt8 × List UInt8) w =>
    match w with
    | .out bs => (acc.1, bs.reverse ++ acc.2)
    | .err bs =>
      let (after, upTo) := acc.2.span (· ≠ 0x0A)
      (bs.reverse ++ upTo ++ acc.1, after)
    | .flush => (acc.2 ++ acc.1, [])) ([], [])
  (held ++ seen).reverse

/-- The result of a utility that ends with `status`. -/
def result (o : Output) (status : Nat) : Result :=
  { out := o.stdout, err := o.stderr, status := status, shown := some o.shown }

end Output

/-- How a utility reads the file an argument names: its bytes, or the
    error the system reports. -/
abbrev Reader := String → Except IoError (List UInt8)

/-- The system's text for an error reading a file. -/
def readError : IoError → String
  | .os code => Errno.message code
  | e => e.message

/-- How messages name standard input. -/
def standardInput : String := "standard input"

end ReplHost.Shell
