import ReplHost.Config.Load
import ReplHost.Json.Writer

/-! # Writing the configuration

  The JSON form of a configuration: an object of the four sections, each an
  object of its fields in the order they are declared, named in snake case.
  A working directory that is not set is `null`; the environment is an
  object of its variables, in order.

  The form is for the configurations the host's types can hold
  (`Config.Representable`): terminal sizes fit in 16 bits, the buffer limit
  fits in 64, and each environment variable is named once.
-/

namespace ReplHost

open Json

/-- The JSON form of the console section. -/
def ConsoleSection.toJson (s : ConsoleSection) : List UInt8 :=
  writeObject
    [("executable", writeString s.executable),
     ("args", writeArray (s.args.map writeString)),
     ("working_dir", writeOptional writeString s.workingDir),
     ("title", writeString s.title),
     ("columns", writeNat s.columns),
     ("rows", writeNat s.rows),
     ("env", writeObject (s.env.map fun kv => (kv.1, writeString kv.2)))]

/-- The JSON form of the output section. -/
def OutputSection.toJson (s : OutputSection) : List UInt8 :=
  writeObject
    [("buffer_limit", writeNat s.bufferLimit),
     ("strip_ansi", writeBool s.stripAnsi),
     ("report_exit", writeBool s.reportExit)]

/-- The JSON form of the activation section. -/
def ActivationSection.toJson (s : ActivationSection) : List UInt8 :=
  writeObject
    [("auto_respawn", writeBool s.autoRespawn),
     ("hide_when_empty", writeBool s.hideWhenEmpty)]

/-- The JSON form of the logging section. -/
def LoggingSection.toJson (s : LoggingSection) : List UInt8 :=
  writeObject [("level", writeString s.level)]

namespace Config

/-- The JSON form of a configuration. -/
def toJson (c : Config) : List UInt8 :=
  writeObject
    [("console", c.console.toJson),
     ("output", c.output.toJson),
     ("activation", c.activation.toJson),
     ("logging", c.logging.toJson)]

/-- A configuration the host's types can hold. -/
structure Representable (c : Config) : Prop where
  /-- The terminal width is a 16-bit value. -/
  columns : c.console.columns ≤ u16Max
  /-- The terminal height is a 16-bit value. -/
  rows : c.console.rows ≤ u16Max
  /-- The buffer limit is a 64-bit size. -/
  bufferLimit : c.output.bufferLimit ≤ Decimal.wordMax
  /-- Each environment variable is named once. -/
  env : (c.console.env.map (·.1)).Nodup

end Config

end ReplHost
