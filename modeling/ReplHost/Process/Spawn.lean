import ReplHost.Os.Files
import ReplHost.Text.Quoted

/-! # Finding the program to start

  A program named with a leading `/` is taken as it is, and must be an
  executable file. A name starting with `./` or `../` is looked up in the
  working directory only. Any other name is looked up in each directory of
  the search path in turn; the first executable file wins. When nothing is
  found, the failure lists, for each candidate that exists but cannot be
  run, why not, and then that no candidate was found in the path.

  New processes start in their working directory when it exists, and in the
  home directory otherwise.
-/

namespace ReplHost

/-- The system's name and text for an error number, as a failed access
    check reports it. -/
def errnoText : Int → String
  | 2 => "ENOENT: No such file or directory"
  | 13 => "EACCES: Permission denied"
  | 20 => "ENOTDIR: Not a directory"
  | n => "Unknown errno " ++ Decimal.renderInt n

/-- Joins a directory and a name as paths join: an empty name leaves a
    trailing slash. -/
def joinPath (dir name : String) : String :=
  if name.startsWith "/" then name
  else if dir.endsWith "/" then dir ++ name else dir ++ "/" ++ name

/-- What an access check for execution finds at a path. -/
inductive Access where
  /-- A directory. -/
  | directory
  /-- An executable file. -/
  | program
  /-- A file that cannot be executed. -/
  | plainFile
  /-- Nothing, with the error number of the lookup. -/
  | missing (errno : Int)
  deriving DecidableEq, Repr

/-- Looks at a path, seen from directory `cwd`. -/
def FileSystem.access (fs : FileSystem) (cwd path : String) : Access :=
  match fs.resolve cwd path with
  | .error (.os n) => .missing n
  | .error _ => .missing 2
  | .ok p =>
    if fs.isDir p then .directory
    else if fs.isProgram p then .program
    else if (fs.file? p).isSome then .plainFile
    else .missing 2

/-- Whether a name is explicitly relative to the working directory. -/
def cwdRelative (name : String) : Bool :=
  match (name.splitOn "/").head? with
  | some "." | some ".." => true
  | _ => false

/-- The path of the program a name resolves to, or why there is none. -/
def resolveProgram (fs : FileSystem) (cwd searchPath name : String) : Except String String :=
  if name.startsWith "/" then
    match fs.access cwd name with
    | .directory | .program => .ok name
    | .plainFile => .error ("Unable to spawn " ++ name ++ " because it is not executable (" ++ errnoText 13 ++ ")")
    | .missing n => .error ("Unable to spawn " ++ name ++ " because it doesn't exist on the filesystem (" ++ errnoText n ++ ")")
  else if cwdRelative name then
    let full := joinPath cwd name
    match fs.access cwd full with
    | .directory => .error ("Unable to spawn " ++ full ++ " because it is a directory")
    | .program => .ok full
    | .plainFile => .error ("Unable to spawn " ++ full ++ " because it is not executable")
    | .missing _ => .error ("Unable to spawn " ++ full ++ " because it does not exist")
  else
    let step := fun (acc : Option String × List String) (dir : String) =>
      match acc.1 with
      | some found => (some found, acc.2)
      | none =>
        let candidate := joinPath dir name
        match fs.access cwd candidate with
        | .directory => (none, acc.2 ++ [candidate ++ " exists but is a directory"])
        | .program => (some candidate, acc.2)
        | .plainFile => (none, acc.2 ++ [candidate ++ " exists but is not executable"])
        | .missing _ => (none, acc.2)
    match (searchPath.splitOn ":").foldl step (none, []) with
    | (some found, _) => .ok found
    | (none, errors) =>
      let errors := errors ++ ["No viable candidates found in PATH " ++ Text.quotePath searchPath]
      .error ("Unable to spawn " ++ name ++ " because:\n" ++ ".\n".intercalate errors)

/-- The directory a process starts in: its working directory when that is
    a directory, else the home directory. -/
def startDirectory (fs : FileSystem) (home : String) (dir : Option String) : String :=
  match dir with
  | some d =>
    match fs.resolve "/" d with
    | .ok p => if fs.isDir p then p else home
    | .error _ => home
  | none => home

end ReplHost
