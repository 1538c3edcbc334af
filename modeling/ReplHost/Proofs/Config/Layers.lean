import ReplHost.Config.Load
import ReplHost.Proofs.Cli.Options

/-! # Where each setting comes from

  A configuration is built in layers: the file the command line names (the
  defaults without one), then the environment, then the command line. Five
  settings can be overridden, each by its own rule: an empty variable leaves
  the program, the working directory and the title alone but does set the log
  filter; the general log variable counts only when the host's own is unset;
  the console's arguments are replaced only by at least one word after `--`.
  From the result the host derives what new consoles are launched with, how
  their output is handled, and how the controller behaves.

  Main statement: `load_layers`, with each setting the command line gives
  read as its last occurrence among the options (`Cli.lastValue`).
-/

namespace ReplHost

namespace Config

/-- The environment's layer: the program, working directory and title from
    their variables when set and not empty, the log filter from its own
    variable when set (even empty), else from the general one. -/
theorem applyVars_eq (c : Config) (var : String → Option String) :
    c.applyVars var = { c with
      console := { c.console with
        executable := (nonEmpty (var executableVar)).getD c.console.executable
        workingDir := (nonEmpty (var workDirVar)).or c.console.workingDir
        title := (nonEmpty (var titleVar)).getD c.console.title }
      logging := { level := (var logLevelVar).getD ((var fallbackLogVar).getD c.logging.level) } } := by
  unfold applyVars
  cases nonEmpty (var executableVar) <;> cases nonEmpty (var workDirVar) <;> cases nonEmpty (var titleVar) <;>
    cases var logLevelVar <;> rfl

/-- Loading reads the file the command line names, or starts from the
    defaults, then applies the environment and the command line. -/
theorem load_eq {fs : FileSystem} {cwd : String} {var : String → Option String} {a : Cli.Args} {file : Config}
    (hfile : a.config.elim (.ok {}) (fromFile fs cwd) = .ok file) :
    load fs cwd var a = .ok ((file.applyVars var).applyArgs a) := by
  cases h : a.config with
  | none =>
    rw [h] at hfile
    cases hfile
    simp only [load, h]
    rfl
  | some path =>
    have hread : fromFile fs cwd path = .ok file := by simpa [h] using hfile
    simp only [load, h, hread]
    rfl

end Config

namespace Config

/-- Where each setting of a loaded configuration comes from. The file's
    configuration (the defaults without `-c`) is the base; the program, the
    working directory and the title are the last `-e`, `-C`, `-t` given, else
    their variable when set and not empty, else the file's; the console's
    arguments are the words after `--` when there is one, else the file's; the
    log filter is the last `-l`, else its own variable when set even empty,
    else the general one, else the file's; everything else is the file's. The
    launch spec, output options and controller settings copy their fields. -/
theorem load_layers {opts rest : List String} {items : List Cli.Item} {a : Cli.Args} {fs : FileSystem}
    {cwd : String} {var : String → Option String} {file : Config} (hopts : "--" ∉ opts)
    (hrest : rest = [] ∨ rest.head? = some "--") (hparse : Cli.parse (opts ++ rest) = .ok a)
    (hlex : Cli.Lexes opts items) (hfile : (Cli.lastValue .config items).elim (.ok {}) (fromFile fs cwd) = .ok file) :
    ∃ c, load fs cwd var a = .ok c ∧
      c.console = { file.console with
        executable :=
          (Cli.lastValue .executable items).getD ((nonEmpty (var executableVar)).getD file.console.executable)
        args := if rest.tail = [] then file.console.args else rest.tail
        workingDir :=
          (Cli.lastValue .workingDir items).or ((nonEmpty (var workDirVar)).or file.console.workingDir)
        title := (Cli.lastValue .title items).getD ((nonEmpty (var titleVar)).getD file.console.title) } ∧
      c.logging.level =
        (Cli.lastValue .logLevel items).getD ((var logLevelVar).getD ((var fallbackLogVar).getD file.logging.level)) ∧
      c.output = file.output ∧ c.activation = file.activation ∧
      c.launchSpec =
        { program := c.console.executable
          args := c.console.args
          workingDir := c.console.workingDir
          env := c.console.env
          size := { rows := c.console.rows, cols := c.console.columns } } ∧
      c.outputOptions =
        { bufferLimit := c.output.bufferLimit
          stripAnsi := c.output.stripAnsi
          reportExit := c.output.reportExit } ∧
      c.activationSettings =
        { title := c.console.title
          autoRespawn := c.activation.autoRespawn
          hideWhenEmpty := c.activation.hideWhenEmpty } := by
  have ha := Cli.parse_of_lexes hopts hrest hlex hparse
  -- each field of the arguments is its last value among the options read
  have hget : ∀ s, a.get s = Cli.lastValue s items := fun s => by
    rw [ha, Cli.get_foldl_record]
    cases s <;> simp [Cli.Args.get]
  have hargs : a.args = rest.tail := by rw [ha, Cli.args_foldl_record]
  have hconfig : a.config = Cli.lastValue .config items := hget .config
  refine ⟨_, load_eq (hconfig ▸ hfile), ?_, ?_, rfl, rfl, rfl, rfl, rfl⟩
  · rw [applyArgs, applyVars_eq, ← hget .executable, ← hget .workingDir, ← hget .title, hargs]
    simp [Cli.Args.get, List.isEmpty_iff]
  · rw [applyArgs, applyVars_eq, ← hget .logLevel]
    rfl

/-- A Python console set up from the command line and the environment, with
    no configuration file. -/
theorem python_console_layers :
    ("--" ∉ ["-e", "python3", "-l", "debug"] ∧ (["--", "-i", "-q"] = [] ∨ ["--", "-i", "-q"].head? = some "--") ∧
      Cli.parse (["-e", "python3", "-l", "debug"] ++ ["--", "-i", "-q"]) =
        .ok { executable := some "python3", logLevel := some "debug", args := ["-i", "-q"] } ∧
      Cli.Lexes ["-e", "python3", "-l", "debug"] [.setting .executable "python3", .setting .logLevel "debug"] ∧
      (Cli.lastValue .config [.setting .executable "python3", .setting .logLevel "debug"]).elim (.ok {})
        (fromFile { dirs := ["/"], files := [] } "/") = .ok {}) ∧
    ∃ c, load { dirs := ["/"], files := [] } "/" (fun n => if n = titleVar then some "Python" else none)
        { executable := some "python3", logLevel := some "debug", args := ["-i", "-q"] } = .ok c ∧
      c.launchSpec = { program := "python3", args := ["-i", "-q"], size := { rows := 24, cols := 1024 } } ∧
      c.activationSettings.title = "Python" ∧ c.logFilter = "debug" := by
  have hopts : "--" ∉ ["-e", "python3", "-l", "debug"] := by decide
  have hparse : Cli.parse (["-e", "python3", "-l", "debug"] ++ ["--", "-i", "-q"]) =
      .ok { executable := some "python3", logLevel := some "debug", args := ["-i", "-q"] } := by decide
  have he : "-e".toList = '-' :: ([] ++ ['e']) := by decide
  have hl : "-l".toList = '-' :: ([] ++ ['l']) := by decide
  have hlex : Cli.Lexes ["-e", "python3", "-l", "debug"] [.setting .executable "python3", .setting .logLevel "debug"] :=
    .shortNext he .nil rfl (.shortNext hl .nil rfl .nil)
  refine ⟨⟨hopts, .inr rfl, hparse, hlex, rfl⟩, ?_⟩
  obtain ⟨c, hload, hconsole, hlevel, -, -, hspec, -, hsettings⟩ :=
    @load_layers _ _ _ _ { dirs := ["/"], files := [] } "/" (fun n => if n = titleVar then some "Python" else none) {}
      hopts (.inr rfl) hparse hlex rfl
  refine ⟨c, hload, ?_, ?_, ?_⟩
  · rw [hspec, hconsole]
    decide
  · rw [hsettings]
    dsimp only
    rw [hconsole]
    decide
  · simp only [logFilter, hlevel]
    decide

end Config

end ReplHost
