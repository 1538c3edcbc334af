import ReplHost.Cli.Run

/-! # The command-line program

  Reads the arguments, the environment variables the program uses, the
  configuration file the command line names and standard input, runs the
  program on them, and writes what it printed and its exit status.
-/

namespace ReplHost.Cli

/-- The environment variables the program reads or hands to its console. -/
def environmentNames : List String :=
  ["PATH", "HOME", Config.executableVar, Config.workDirVar, Config.titleVar, Config.logLevelVar,
   Config.fallbackLogVar]

/-- Reads the environment variables the program uses. -/
def readEnvironment : IO (List (String × String)) :=
  environmentNames.foldlM (fun acc n => do
    match ← IO.getEnv n with
    | some v => pure (acc ++ [(n, v)])
    | none => pure acc) []

/-- Where a path given on the command line lies, for a program started in
    the root directory. -/
def rooted (path : String) : String := if path.startsWith "/" then path else "/" ++ path

/-- Adds the configuration file the command line names, when it can be read. -/
def withConfigFile (fs : FileSystem) (argv : List String) : IO FileSystem := do
  match parse argv with
  | .ok a =>
    match a.config with
    | some path =>
      try
        let bytes ← IO.FS.readBinFile path
        pure (fs.withFile (rooted path) bytes.toList)
      catch _ => pure fs
    | none => pure fs
  | .error _ => pure fs

/-- Reads a stream to its end. -/
partial def readAll (stream : IO.FS.Stream) (acc : String) : IO String := do
  let line ← stream.getLine
  if line.isEmpty then pure acc else readAll stream (acc ++ line)

end ReplHost.Cli

open ReplHost in
/-- Runs the console host on this process's arguments and input. -/
def main (args : List String) : IO UInt32 := do
  let env ← Cli.readEnvironment
  let fs ← Cli.withConfigFile FileSystem.standard args
  let stdin ← Cli.readAll (← IO.getStdin) ""
  let r := ({ argv := args, env := env, fs := fs, stdin := stdin } : Cli.Invocation).run
  IO.print r.stdout
  IO.eprint r.stderr
  pure r.code.toUInt32
