import ReplHost.Config.Write
import ReplHost.Proofs.Json.Records

/-! # The configuration reads back from its JSON form

  `Config.parse c.toJson = .ok c` for every configuration the host's types
  can hold (`Config.parse_toJson`): any strings, a working directory or none,
  16-bit terminal sizes, a buffer limit up to 2^64 - 1, any booleans, and an
  environment that names each variable once.

  Each section is a record of written fields (`WrittenField`), one per entry
  of the section's field list and in its order, each carrying the proof that
  its reader reads its value back. The section reader then rebuilds the
  section from any starting record, since every field is set; the
  configuration is a record of the four sections in the same way.
-/

namespace ReplHost

open Json

/-- Terminal sizes are words. -/
theorem u16Max_le_wordMax : u16Max ≤ Decimal.wordMax := by
  unfold u16Max Decimal.wordMax
  decide

namespace ConsoleSection

/-- The written fields of a console section whose sizes are 16-bit and
    whose environment names each variable once. -/
def written (x : ConsoleSection) (hcols : x.columns ≤ u16Max) (hrows : x.rows ≤ u16Max)
    (henv : (x.env.map (·.1)).Nodup) : List (WrittenField ConsoleSection) :=
  [.ofReader "executable" (fun _ => readString "a string") (fun s v => { s with executable := v })
      (writeString x.executable) x.executable (fun _ => readsBack_readString _ x.executable),
   .ofReader "args" (fun _ => readStrings) (fun s v => { s with args := v })
      (writeArray (x.args.map writeString)) x.args (fun _ => readsBack_readStrings x.args),
   .ofReader "working_dir" (fun _ => readOptional (readString "path string"))
      (fun s v => { s with workingDir := v }) (writeOptional writeString x.workingDir) x.workingDir
      (fun _ => readsBack_readOptional_string _ x.workingDir),
   .ofReader "title" (fun _ => readString "a string") (fun s v => { s with title := v })
      (writeString x.title) x.title (fun _ => readsBack_readString _ x.title),
   .ofReader "columns" (fun _ => readUnsigned u16Max "u16") (fun s v => { s with columns := v })
      (writeNat x.columns) x.columns (fun _ => readsBack_readUnsigned hcols u16Max_le_wordMax _),
   .ofReader "rows" (fun _ => readUnsigned u16Max "u16") (fun s v => { s with rows := v })
      (writeNat x.rows) x.rows (fun _ => readsBack_readUnsigned hrows u16Max_le_wordMax _),
   .ofReader "env" (fun _ => readStringMap) (fun s v => { s with env := v })
      (writeObject (x.env.map fun (kv : String × String) => (kv.1, writeString kv.2))) x.env
      (fun _ => readsBack_readStringMap x.env henv)]

/-- No field of the console section is named twice. -/
theorem names_nodup : (consoleFields.map (·.name)).Nodup := by decide

/-- A console section reads back from its JSON form, from any starting
    section. -/
theorem readsBack_toJson (x : ConsoleSection) (hcols : x.columns ≤ u16Max) (hrows : x.rows ≤ u16Max)
    (henv : (x.env.map (·.1)).Nodup) (init : ConsoleSection) :
    ReadsBack (readRecord "ConsoleSection" consoleFields init) x.toJson x :=
  readsBack_readRecord (x.written hcols hrows henv) rfl names_nodup (fun _ => rfl) init

end ConsoleSection

namespace OutputSection

/-- The written fields of an output section whose buffer limit is a
    64-bit size. -/
def written (x : OutputSection) (hbuf : x.bufferLimit ≤ Decimal.wordMax) : List (WrittenField OutputSection) :=
  [.ofReader "buffer_limit" (fun _ => readUnsigned Decimal.wordMax "usize") (fun s v => { s with bufferLimit := v })
      (writeNat x.bufferLimit) x.bufferLimit (fun _ => readsBack_readUnsigned hbuf (Nat.le_refl _) _),
   .ofReader "strip_ansi" (fun _ => readBool) (fun s v => { s with stripAnsi := v })
      (writeBool x.stripAnsi) x.stripAnsi (fun _ => readsBack_readBool x.stripAnsi),
   .ofReader "report_exit" (fun _ => readBool) (fun s v => { s with reportExit := v })
      (writeBool x.reportExit) x.reportExit (fun _ => readsBack_readBool x.reportExit)]

theorem names_nodup : (outputFields.map (·.name)).Nodup := by decide

theorem readsBack_toJson (x : OutputSection) (hbuf : x.bufferLimit ≤ Decimal.wordMax) (init : OutputSection) :
    ReadsBack (readRecord "OutputSection" outputFields init) x.toJson x :=
  readsBack_readRecord (x.written hbuf) rfl names_nodup (fun _ => rfl) init

end OutputSection

namespace ActivationSection

/-- The written fields of an activation section. -/
def written (x : ActivationSection) : List (WrittenField ActivationSection) :=
  [.ofReader "auto_respawn" (fun _ => readBool) (fun s v => { s with autoRespawn := v })
      (writeBool x.autoRespawn) x.autoRespawn (fun _ => readsBack_readBool x.autoRespawn),
   .ofReader "hide_when_empty" (fun _ => readBool) (fun s v => { s with hideWhenEmpty := v })
      (writeBool x.hideWhenEmpty) x.hideWhenEmpty (fun _ => readsBack_readBool x.hideWhenEmpty)]

theorem names_nodup : (activationFields.map (·.name)).Nodup := by decide

theorem readsBack_toJson (x : ActivationSection) (init : ActivationSection) :
    ReadsBack (readRecord "ActivationSection" activationFields init) x.toJson x :=
  readsBack_readRecord (x.written) rfl names_nodup (fun _ => rfl) init

end ActivationSection

namespace LoggingSection

/-- The written field of a logging section. -/
def written (x : LoggingSection) : List (WrittenField LoggingSection) :=
  [.ofReader "level" (fun _ => readString "a string") (fun s v => { s with level := v })
      (writeString x.level) x.level (fun _ => readsBack_readString _ x.level)]

theorem names_nodup : (loggingFields.map (·.name)).Nodup := by decide

theorem readsBack_toJson (x : LoggingSection) (init : LoggingSection) :
    ReadsBack (readRecord "LoggingSection" loggingFields init) x.toJson x :=
  readsBack_readRecord (x.written) rfl names_nodup (fun _ => rfl) init

end LoggingSection

namespace Config

/-- The written sections of a configuration the host's types can hold. -/
def written (c : Config) (h : c.Representable) : List (WrittenField Config) :=
  [.ofReader "console" (fun a => readRecord "ConsoleSection" consoleFields a.console)
      (fun a v => { a with console := v }) c.console.toJson c.console
      (fun a => c.console.readsBack_toJson h.columns h.rows h.env a.console),
   .ofReader "output" (fun a => readRecord "OutputSection" outputFields a.output)
      (fun a v => { a with output := v }) c.output.toJson c.output
      (fun a => c.output.readsBack_toJson h.bufferLimit a.output),
   .ofReader "activation" (fun a => readRecord "ActivationSection" activationFields a.activation)
      (fun a v => { a with activation := v }) c.activation.toJson c.activation
      (fun a => c.activation.readsBack_toJson a.activation),
   .ofReader "logging" (fun a => readRecord "LoggingSection" loggingFields a.logging)
      (fun a v => { a with logging := v }) c.logging.toJson c.logging
      (fun a => c.logging.readsBack_toJson a.logging)]

theorem names_nodup : (configFields.map (·.name)).Nodup := by decide

/-- Reading the JSON form of a configuration the host's types can hold gives
    the configuration back. -/
theorem parse_toJson (c : Config) (h : c.Representable) : parse c.toJson = .ok c := by
  have hrun := @run_readRecord Config c.toJson [] 0 "Config" configFields (c.written h) rfl names_nodup {}
  simp only [List.append_nil, Nat.zero_add] at hrun
  exact readDocument_of_run hrun

/-- A configuration with the widest terminal, the largest buffer, and
    strings that need every kind of escape and every width of character. -/
def unusual : Config where
  console :=
    { executable := "C:\\Program Files\\evcxr \"nightly\""
      args := ["--opt", "a\tb", "日本語", ""]
      workingDir := some "/tmp/é😀"
      title := "tab\tline\nnul\x00bell\x07del\x7f"
      columns := 65535
      rows := 0
      env := [("PATH", "/bin:/usr/bin"), ("QUOTE", "\"q\"\\\x0c\r\x08")] }
  output := { bufferLimit := Decimal.wordMax, stripAnsi := false, reportExit := true }
  activation := { autoRespawn := false, hideWhenEmpty := true }
  logging := { level := "debug,console=trace" }

theorem unusual_parses_back : unusual.Representable ∧ parse unusual.toJson = .ok unusual :=
  have h : unusual.Representable := ⟨by decide, by decide, Nat.le_refl _, by decide⟩
  ⟨h, parse_toJson unusual h⟩

end Config

end ReplHost
