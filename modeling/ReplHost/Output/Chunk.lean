import ReplHost.Text.Utf8

/-! # Pieces of console output

  Console output travels as *chunks*: a piece of text with the kind of output
  it is. Process output is `stdout` or `stderr`; messages the host itself adds
  (such as the exit notice) are `system`.
-/

namespace ReplHost

/-- The kind of a piece of console output. -/
inductive OutputKind where
  /-- Regular process output. -/
  | stdout
  /-- Error output. -/
  | stderr
  /-- Messages the host adds itself. -/
  | system
  deriving DecidableEq, Repr, Inhabited

namespace OutputKind

/-- The name of a kind. -/
def name : OutputKind → String
  | stdout => "stdout"
  | stderr => "stderr"
  | system => "system"

/-- Reads a kind from its name. -/
def ofName? : String → Option OutputKind
  | "stdout" => some stdout
  | "stderr" => some stderr
  | "system" => some system
  | _ => none

end OutputKind

/-- A piece of console output. -/
structure Chunk where
  /-- The text. -/
  text : String
  /-- What kind of output it is. -/
  kind : OutputKind
  deriving DecidableEq, Repr

namespace Chunk

/-- The size of a chunk in bytes of UTF-8. -/
def bytes (c : Chunk) : Nat := Utf8.byteLength c.text

end Chunk

/-- The total size of chunks in bytes. -/
def totalBytes (cs : List Chunk) : Nat := (cs.map Chunk.bytes).foldr (· + ·) 0

@[simp] theorem totalBytes_nil : totalBytes [] = 0 := rfl

@[simp] theorem totalBytes_cons (c : Chunk) (cs : List Chunk) :
    totalBytes (c :: cs) = c.bytes + totalBytes cs := by
  simp [totalBytes]

@[simp] theorem totalBytes_append (a b : List Chunk) :
    totalBytes (a ++ b) = totalBytes a + totalBytes b := by
  induction a with
  | nil => simp
  | cons c a ih => simp [ih, Nat.add_assoc]

end ReplHost
