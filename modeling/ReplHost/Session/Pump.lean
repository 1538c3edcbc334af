import ReplHost.Output.Decoder
import ReplHost.Output.Sanitizer

/-! # Reading process output

  Each started session has a reader that takes its process's output, read
  by read, decodes it to text, and delivers it to the session. The decoder
  either strips escape sequences (and so decodes UTF-8 leniently as a
  terminal would) or decodes UTF-8 alone, holding back an unfinished
  character until the next read or the end of the stream.
-/

namespace ReplHost

/-- How output bytes become text. -/
inductive OutputDecoder where
  /-- Strip escape sequences while decoding. -/
  | sanitize (z : Sanitizer)
  /-- Decode UTF-8 only. -/
  | raw (d : Utf8Decoder)

namespace OutputDecoder

/-- A fresh decoder, stripping escapes or not. -/
def fresh (strip : Bool) : OutputDecoder := if strip then .sanitize {} else .raw {}

/-- Decodes one read. -/
def feed : OutputDecoder → List UInt8 → OutputDecoder × String
  | .sanitize z, bytes => let (z', t) := z.feed bytes; (.sanitize z', t)
  | .raw d, bytes => let (d', t) := d.decode bytes; (.raw d', t)

/-- What is left at the end of the stream. -/
def finish : OutputDecoder → OutputDecoder × String
  | .sanitize z => (.sanitize z, "")
  | .raw d => let (d', t) := d.finish; (.raw d', t)

end OutputDecoder

/-- The reader of one session's process output. -/
structure Pump where
  /-- The session it delivers to, by reference. -/
  session : Nat
  /-- The process it reads, by reference. -/
  process : Nat
  /-- Its decoder. -/
  decoder : OutputDecoder
  /-- Whether it has stopped. -/
  stopped : Bool := false

end ReplHost
