import ReplHost.Config.Load
import ReplHost.Proofs.Json.Fields
import ReplHost.Proofs.Config.RoundTrip

/-! # Configuration files in any form

  A configuration file is a JSON object whose members name sections, each an
  object whose members name that section's fields. The file may be written in
  any way the grammar allows: members in any order, each name at most once,
  blanks anywhere between tokens, names and strings in any spelling, and
  other members, with any well-formed value, at either level.

  The fields' texts are those of their types: a string; an array of strings;
  an integer up to the field's bound, written with neither sign, fraction
  nor exponent; a boolean; for the environment an object of strings, where a
  later member replaces an earlier one of the same name; and for the working
  directory a string or `null`. `configSpecs` describes these documents, each
  with the change it makes to a configuration.

  Main statement: `fromFile_replaces_named_fields`. A file in this form is
  read as the defaults with exactly the fields it names replaced, and a
  section it leaves out keeps all its defaults. Outside the form the reader
  refuses: a negative zero is not an integer, and a name is text, so an
  escape of half a surrogate pair is refused even in a member that names no
  field (`fromFile_refuses_negative_zero_and_lone_surrogate`).
-/

namespace ReplHost

open Json

namespace Config

/-! ### The fields of each section -/

/-- The console section's fields, by the texts of their types. -/
def consoleSpecs : List (FieldSpec ConsoleSection) :=
  [.of "executable" StringText fun s v => { s with executable := v },
   .of "args" (ArrayText StringText) fun s v => { s with args := v },
   .of "working_dir" (OptionText StringText) fun s v => { s with workingDir := v },
   .of "title" StringText fun s v => { s with title := v },
   .of "columns" (WordText u16Max) fun s v => { s with columns := v },
   .of "rows" (WordText u16Max) fun s v => { s with rows := v },
   .of "env" MapText fun s v => { s with env := v }]

/-- The output section's fields. -/
def outputSpecs : List (FieldSpec OutputSection) :=
  [.of "buffer_limit" (WordText Decimal.wordMax) fun s v => { s with bufferLimit := v },
   .of "strip_ansi" BoolText fun s v => { s with stripAnsi := v },
   .of "report_exit" BoolText fun s v => { s with reportExit := v }]

/-- The activation section's fields. -/
def activationSpecs : List (FieldSpec ActivationSection) :=
  [.of "auto_respawn" BoolText fun s v => { s with autoRespawn := v },
   .of "hide_when_empty" BoolText fun s v => { s with hideWhenEmpty := v }]

/-- The logging section's field. -/
def loggingSpecs : List (FieldSpec LoggingSection) :=
  [.of "level" StringText fun s v => { s with level := v }]

/-- The sections, each an object of its fields changing that section alone. -/
def configSpecs : List (FieldSpec Config) :=
  [.record "console" consoleSpecs (·.console) fun c s => { c with console := s },
   .record "output" outputSpecs (·.output) fun c s => { c with output := s },
   .record "activation" activationSpecs (·.activation) fun c s => { c with activation := s },
   .record "logging" loggingSpecs (·.logging) fun c s => { c with logging := s }]

/-! ### The readers read them -/

theorem consoleFields_read : List.Forall₂ FieldReads consoleFields consoleSpecs :=
  .cons (fieldReads_of _ (readString_reads _) _) <|
  .cons (fieldReads_of _ readStrings_reads _) <|
  .cons (fieldReads_of _ (readOptional_reads (readString_reads _) fun _ _ h => h.starts) _) <|
  .cons (fieldReads_of _ (readString_reads _) _) <|
  .cons (fieldReads_of _ (readUnsigned_reads _ _ u16Max_le_wordMax) _) <|
  .cons (fieldReads_of _ (readUnsigned_reads _ _ u16Max_le_wordMax) _) <|
  .cons (fieldReads_of _ readStringMap_reads _) .nil

theorem outputFields_read : List.Forall₂ FieldReads outputFields outputSpecs :=
  .cons (fieldReads_of _ (readUnsigned_reads _ _ le_rfl) _) <|
  .cons (fieldReads_of _ readBool_reads _) <|
  .cons (fieldReads_of _ readBool_reads _) .nil

theorem activationFields_read : List.Forall₂ FieldReads activationFields activationSpecs :=
  .cons (fieldReads_of _ readBool_reads _) <| .cons (fieldReads_of _ readBool_reads _) .nil

theorem loggingFields_read : List.Forall₂ FieldReads loggingFields loggingSpecs :=
  .cons (fieldReads_of _ (readString_reads _) _) .nil

theorem configFields_read : List.Forall₂ FieldReads configFields configSpecs :=
  .cons (fieldReads_record _ _ consoleFields_read (by decide) _ _) <|
  .cons (fieldReads_record _ _ outputFields_read (by decide) _ _) <|
  .cons (fieldReads_record _ _ activationFields_read (by decide) _ _) <|
  .cons (fieldReads_record _ _ loggingFields_read (by decide) _ _) .nil

/-! ### Reading a file -/

/-- A text in the form `configSpecs` describes is read as the defaults with
    the changes of the fields it names. -/
theorem parse_replaces_named_fields {bytes : List UInt8} {u : Config → Config}
    (h : DocumentText (RecordText configSpecs) bytes u) : parse bytes = .ok (u {}) := by
  obtain ⟨p, hp, hu, hbytes⟩ := h
  exact readDocument_reads (readRecord_reads "Config" configFields_read (by decide) {})
    ⟨p, hp, ⟨u, hu, rfl⟩, hbytes⟩

/-- A file holding text is parsed; its bytes are valid UTF-8. -/
theorem fromFile_of_read {fs : FileSystem} {cwd path text : String}
    (hread : fs.read cwd path = .ok (Utf8.encode text)) :
    fromFile fs cwd path = (parse (Utf8.encode text)).mapError .parse := by
  have hvalid : Utf8.firstProblem? (Utf8.encode text) = none := Utf8.problemFrom_encodeChars text.toList 0
  simp [fromFile, hread, hvalid]

/-- A configuration file written in any form the grammar allows is read as
    the defaults with the fields it names replaced: each section the file
    names keeps the defaults of the fields it leaves out, and each section
    it leaves out keeps all its defaults. -/
theorem fromFile_replaces_named_fields {fs : FileSystem} {cwd path text : String} {u : Config → Config}
    (hread : fs.read cwd path = .ok (Utf8.encode text))
    (h : DocumentText (RecordText configSpecs) (Utf8.encode text) u) :
    fromFile fs cwd path = .ok (u {}) := by
  rw [fromFile_of_read hread, parse_replaces_named_fields h]
  rfl

/-! ### Files on a small file system -/

/-- The file `c` of the root directory, read from the root. -/
theorem read_root_file (bytes : List UInt8) :
    FileSystem.read { dirs := ["/"], files := [("/c", bytes)] } "/" "c" = .ok bytes := by
  -- one step of the splitting loop per character of the path
  have hsplit : "c".splitOn "/" = ["c"] := by
    rw [String.splitOn, if_neg (by decide +kernel), String.splitOnAux, if_neg (by decide +kernel),
      if_neg (by decide +kernel), String.splitOnAux, if_pos (by decide +kernel)]
    decide +kernel
  have hend : "c".endsWith "/" = false := by decide +kernel
  simp +decide [FileSystem.read, FileSystem.resolve, hsplit, hend, FileSystem.walk, FileSystem.isDir,
    FileSystem.child, FileSystem.file?]
  rfl

/-- A file with a console section of two fields and a member naming none, a
    top-level member naming no section, and a logging section. -/
theorem named_sections_read :
    ∃ u, DocumentText (RecordText configSpecs) (Utf8.encode ("\x7b\"console\": \x7b\"args\": [\"-q\"], " ++
        "\"working_dir\": null, \"tabs\": [1]\x7d, \"x\": true, \"logging\": \x7b\"level\": \"warn\"\x7d\x7d")) u ∧
      fromFile { dirs := ["/"], files := [("/c", Utf8.encode ("\x7b\"console\": \x7b\"args\": [\"-q\"], " ++
        "\"working_dir\": null, \"tabs\": [1]\x7d, \"x\": true, \"logging\": \x7b\"level\": \"warn\"\x7d\x7d"))] }
        "/" "c" = .ok (u {}) ∧
      u {} = { console := { args := ["-q"] }, logging := { level := "warn" } } := by
  have hargs : ArrayText StringText
      (enclosed 0x5B 0x5D [] [(⟨[], writeString "-q", []⟩ : Padded).bytes]) ["-q"] :=
    ⟨[], [(⟨[], writeString "-q", []⟩, "-q")], by simp [Blanks],
      by simpa [Padded.Blank, Blanks] using writeString_text "-q", rfl, rfl⟩
  have hone : NumberText [0x31] :=
    ⟨[], [0x31], [], [], rfl, .inl rfl, .inr ⟨0x31, [], rfl, by decide, by decide, by simp⟩, .inl rfl, .inl rfl⟩
  have htabs : ValueText (enclosed 0x5B 0x5D [] (List.map Padded.bytes [⟨[], [0x31], []⟩])) :=
    .array (by simp [Blanks]) (by simp [Padded.Blank, Blanks]) (by simpa using .number hone)
  -- the console section: two of its fields, and a member naming none whose value is passed over
  have hconsole : RecordText consoleSpecs _ _ :=
    ⟨[], [⟨⟨[], writeString "args", []⟩, ⟨[0x20], _, []⟩⟩,
        ⟨⟨[0x20], writeString "working_dir", []⟩, ⟨[0x20], nullWord, []⟩⟩,
        ⟨⟨[0x20], writeString "tabs", []⟩, ⟨[0x20], _, []⟩⟩],
      ["args", "working_dir"], by simp [Blanks], by simp [MemberBytes.Blank, Padded.Blank, Blanks, isBlank],
      .field _ (List.mem_cons_of_mem _ List.mem_cons_self) (writeString_text _) ⟨_, hargs, rfl⟩ <|
        .field _ (List.mem_cons_of_mem _ (List.mem_cons_of_mem _ List.mem_cons_self))
          (writeString_text _) ⟨none, rfl, rfl⟩ <|
        .other "tabs" (by decide) (writeString_text _) htabs .nil,
      by decide, rfl⟩
  have hlogging : RecordText loggingSpecs _ _ :=
    ⟨[], [⟨⟨[], writeString "level", []⟩, ⟨[0x20], writeString "warn", []⟩⟩],
      ["level"], by simp [Blanks], by simp [MemberBytes.Blank, Padded.Blank, Blanks, isBlank],
      .field _ List.mem_cons_self (writeString_text _) ⟨_, writeString_text _, rfl⟩ .nil,
      by decide, rfl⟩
  -- the document: two sections around a member naming none
  have htop : RecordText configSpecs _ _ :=
    ⟨[], [⟨⟨[], writeString "console", []⟩, ⟨[0x20], _, []⟩⟩,
        ⟨⟨[0x20], writeString "x", []⟩, ⟨[0x20], boolWord true, []⟩⟩,
        ⟨⟨[0x20], writeString "logging", []⟩, ⟨[0x20], _, []⟩⟩],
      ["console", "logging"], by simp [Blanks], by simp [MemberBytes.Blank, Padded.Blank, Blanks, isBlank],
      .field _ List.mem_cons_self (writeString_text _) ⟨_, hconsole, rfl⟩ <|
        .other "x" (by decide) (writeString_text _) (.bool true) <|
        .field _ (List.mem_cons_of_mem _ (List.mem_cons_of_mem _ (List.mem_cons_of_mem _ List.mem_cons_self)))
          (writeString_text _) ⟨_, hlogging, rfl⟩ .nil,
      by decide, rfl⟩
  -- the bytes the members spell are the file's
  have hdoc : DocumentText (RecordText configSpecs) (Utf8.encode ("\x7b\"console\": \x7b\"args\": [\"-q\"], " ++
      "\"working_dir\": null, \"tabs\": [1]\x7d, \"x\": true, \"logging\": \x7b\"level\": \"warn\"\x7d\x7d")) _ :=
    ⟨⟨[], _, []⟩, ⟨by simp [Blanks], by simp [Blanks]⟩, htop, by decide⟩
  exact ⟨_, hdoc, fromFile_replaces_named_fields (read_root_file _) hdoc, rfl⟩

/-- Two files the form leaves out are refused. A negative zero is read as a
    floating-point number, which no integer field takes; and a member name
    with a `\u` escape of the second half of a surrogate pair, standing
    alone, is no text, even where the member names no field. -/
theorem fromFile_refuses_negative_zero_and_lone_surrogate :
    fromFile { dirs := ["/"], files := [("/c", Utf8.encode "\x7b\"console\": \x7b\"columns\": -0\x7d\x7d")] }
        "/" "c" = .error (.parse ⟨.invalidType (.float ⟨true, 0, Binary64.minExponent⟩) "u16", 1, 26⟩) ∧
      fromFile { dirs := ["/"], files := [("/c", Utf8.encode "\x7b\"\\udc00\": 1\x7d")] }
        "/" "c" = .error (.parse ⟨.loneLeadingSurrogate, 1, 8⟩) := by
  have hzero : parse (Utf8.encode "\x7b\"console\": \x7b\"columns\": -0\x7d\x7d") =
      .error ⟨.invalidType (.float ⟨true, 0, Binary64.minExponent⟩) "u16", 1, 26⟩ := by
    decide +kernel
  have hsurrogate : parse (Utf8.encode "\x7b\"\\udc00\": 1\x7d") = .error ⟨.loneLeadingSurrogate, 1, 8⟩ := by
    decide +kernel
  constructor
  · rw [fromFile_of_read (read_root_file _), hzero]
    rfl
  · rw [fromFile_of_read (read_root_file _), hsurrogate]
    rfl

end Config

end ReplHost
